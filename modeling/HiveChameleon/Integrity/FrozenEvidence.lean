import HiveChameleon.Lib.Freezing
import HiveChameleon.Nakama.Database

/-!
# Integrity.FrozenEvidence — terminal rounds and submitted maps under concurrent transactions

The triggers that make a terminal round and a submitted map version immutable, as the transactions of
the workload roles meet them.  Keys are the ids of the rows; foreign keys and the checks of single
columns, which only refuse more statements, are left out.
-/

namespace HiveChameleon.Integrity

open Lib Lib.Freezing Nakama

/-! ### Rounds -/

structure RoundDisguiseSnapshotRow where
  id : String
  roundParticipantId : String
  objectStorageKey : String
  sha256 : String
  formatVersion : ℤ
  capturedAt : Time
deriving DecidableEq

/-- A row of one of the detail tables. -/
inductive RoundDetail where
  | participant (row : RoundParticipantRow)
  | discovery (row : RoundDiscoveryRow)
  | disguise (row : RoundDisguiseSnapshotRow)
  | like (row : RoundLikeRow)
deriving DecidableEq

inductive RoundDetailKey where
  | participant (id : String)
  | discovery (id : String)
  | disguise (id : String)
  | like (id : String)
deriving DecidableEq, Repr

abbrev RoundRows := Rows String GameRoundRow RoundDetailKey RoundDetail

/-- `status IN ('completed', 'aborted')` -/
def Terminal (row : GameRoundRow) : Prop := row.status = .completed ∨ row.status = .aborted

instance (row : GameRoundRow) : Decidable (Terminal row) := inferInstanceAs (Decidable (_ ∨ _))

/-- The `round_id` of a detail row; a disguise has that of its participant. -/
def roundIdOf (details : RoundDetailKey → Option RoundDetail) : RoundDetail → Option String
  | .participant row => some row.roundId
  | .discovery row => some row.roundId
  | .like row => some row.roundId
  | .disguise row =>
    match details (.participant row.roundParticipantId) with
    | some (.participant participant) => some participant.roundId
    | _ => none

/-- `hc_protect_round_detail`, of the rows `OLD` and `NEW` that the operation has. -/
def hcProtectRoundDetail (db : RoundRows) (old new : Option RoundDetail) : Except SqlError Unit :=
  let oldRoundId := old.bind (roundIdOf db.child)
  let newRoundId := new.bind (roundIdOf db.child)
  require (∀ roundId ∈ oldRoundId.toList ++ newRoundId.toList, ∀ round ∈ db.parent roundId,
      ¬ Terminal round)
    (.raised "55000" "terminal round detail is immutable")

/-- An insert has no `BEFORE` trigger; a delete or an update calls `hc_protect_terminal_round`. -/
def writesRound (old new : Option GameRoundRow) : Prop :=
  (∀ row ∈ old, hcProtectTerminalRound row = .ok ()) ∧ ∀ row ∈ new, gameRoundChecks row = .ok ()

/-- The participants of the round, as `game` has them, are those that the transaction sees. -/
def ShowsParticipants (db : RoundRows) (roundId : String) (game : GameDb) : Prop :=
  ∀ row, row.roundId = roundId →
    (row ∈ game.roundParticipant ↔ db.child (.participant row.id) = some (.participant row))

/-- `hc_check_terminal_round_bundle`, whatever the tables of results and lobbies hold. -/
def passesBundle (db : RoundRows) (row : GameRoundRow) : Prop :=
  ∃ game : GameDb, ShowsParticipants db row.id game ∧ hcCheckTerminalRoundBundle game row = .ok ()

theorem terminal_iff_protected {row : GameRoundRow} :
    hcProtectTerminalRound row = .ok () ↔ ¬ Terminal row := by
  rw [hcProtectTerminalRound, require_eq_ok, Terminal, not_or]

theorem roundIdOf_linked {rows rows' : RoundDetailKey → Option RoundDetail} {detail : RoundDetail}
    {roundId : String} (h : roundIdOf rows detail = some roundId)
    (h' : roundIdOf rows' detail ≠ some roundId) :
    ∃ k d, rows k = some d ∧ rows' k ≠ rows k ∧ ∀ any, roundIdOf any d = some roundId := by
  cases detail with
  | participant row => exact absurd h h'
  | discovery row => exact absurd h h'
  | like row => exact absurd h h'
  | disguise row =>
    simp only [roundIdOf] at h h'
    split at h
    · rename_i participant hparticipant
      refine ⟨_, _, hparticipant, fun hsame => ?_, fun _ => h⟩
      rw [hsame, hparticipant] at h'
      exact h' h
    · cases h

theorem thawed_of_protectRoundDetail {db : RoundRows} {old new : Option RoundDetail}
    {roundId : String} {row : GameRoundRow} (h : hcProtectRoundDetail db old new = .ok ())
    (hid : old.bind (roundIdOf db.child) = some roundId ∨
      new.bind (roundIdOf db.child) = some roundId)
    (hrow : db.parent roundId = some row) : ¬ Terminal row := by
  rw [hcProtectRoundDetail, require_eq_ok] at h
  refine h roundId (List.mem_append.mpr ?_) row hrow
  rcases hid with hold | hnew
  · exact .inl (Option.mem_toList.mpr hold)
  · exact .inr (Option.mem_toList.mpr hnew)

def roundTriggers :
    Triggers String GameRoundRow RoundDetailKey RoundDetail GameRoundRow where
  Frozen := Terminal
  content row := row
  parentOf := roundIdOf
  passParent := writesRound
  passChild db old new := hcProtectRoundDetail db old new = .ok ()
  Deferred := Terminal
  passDeferred := passesBundle
  frozen_of_pass old _ hfrozen hpass :=
    absurd hfrozen (terminal_iff_protected.mp (hpass.1 old rfl))
  linked _ _ _ _ h h' := roundIdOf_linked h h'
  thawed_of_pass _ _ _ _ _ hpass hid hrow := thawed_of_protectRoundDetail hpass hid hrow

/-! ### Map versions -/

/-- The columns of `content.map_version` that the trigger compares, and two that it lets change. -/
structure MapVersionRow where
  mapId : String
  versionNumber : String
  manifest : String
  licenseDeclarationVersion : String
  licenseAcceptedAt : Time
  submittedAt : Option Time
  status : String
  updatedAt : Time
deriving DecidableEq

structure MapAssetRow where
  mapVersionId : String
  kind : String
  objectStorageKey : String
  mediaType : String
  sizeBytes : ℤ
  sha256 : String
  sortOrder : ℤ
deriving DecidableEq

abbrev MapRows := Rows String MapVersionRow String MapAssetRow

def Submitted (row : MapVersionRow) : Prop := row.submittedAt ≠ none

instance (row : MapVersionRow) : Decidable (Submitted row) := inferInstanceAs (Decidable (_ ≠ _))

/-- `hc_protect_submitted_map_version`; a delete has no `NEW`. -/
def hcProtectSubmittedMapVersion (old : MapVersionRow) (new : Option MapVersionRow) :
    Except SqlError Unit :=
  if Submitted old then
    match new with
    | none => .error (.raised "55000" "submitted map versions cannot be deleted")
    | some new =>
      require (¬ (new.mapId ≠ old.mapId ∨ new.versionNumber ≠ old.versionNumber ∨
          new.manifest ≠ old.manifest ∨
          new.licenseDeclarationVersion ≠ old.licenseDeclarationVersion ∨
          new.licenseAcceptedAt ≠ old.licenseAcceptedAt ∨ new.submittedAt ≠ old.submittedAt))
        (.raised "55000" "submitted map identity and content are immutable")
  else .ok ()

/-- `hc_protect_submitted_map_asset` -/
def hcProtectSubmittedMapAsset (db : MapRows) (old new : Option MapAssetRow) :
    Except SqlError Unit :=
  let oldVersionId := old.map (·.mapVersionId)
  let newVersionId := new.map (·.mapVersionId)
  require (∀ id ∈ oldVersionId.toList ++ newVersionId.toList, ∀ version ∈ db.parent id,
      ¬ Submitted version)
    (.raised "55000" "assets of a submitted map version are immutable")

/-- Identity, content and time of a submission. -/
structure Submission where
  mapId : String
  versionNumber : String
  manifest : String
  licenseDeclarationVersion : String
  licenseAcceptedAt : Time
  submittedAt : Option Time
deriving DecidableEq

def MapVersionRow.submission (row : MapVersionRow) : Submission where
  mapId := row.mapId
  versionNumber := row.versionNumber
  manifest := row.manifest
  licenseDeclarationVersion := row.licenseDeclarationVersion
  licenseAcceptedAt := row.licenseAcceptedAt
  submittedAt := row.submittedAt

theorem submitted_of_protected {old : MapVersionRow} {new : Option MapVersionRow}
    (hold : Submitted old) (h : hcProtectSubmittedMapVersion old new = .ok ()) :
    ∃ row, new = some row ∧ Submitted row ∧ row.submission = old.submission := by
  cases new with
  | none =>
    simp only [hcProtectSubmittedMapVersion, if_pos hold] at h
    cases h
  | some row =>
    simp only [hcProtectSubmittedMapVersion, if_pos hold, require_eq_ok, not_or, not_not] at h
    obtain ⟨hmap, hversion, hmanifest, hlicense, haccepted, hsubmitted⟩ := h
    refine ⟨row, rfl, ?_, ?_⟩
    · rw [Submitted, hsubmitted]
      exact hold
    · rw [MapVersionRow.submission, MapVersionRow.submission, hmap, hversion, hmanifest, hlicense,
        haccepted, hsubmitted]

theorem thawed_of_protectAsset {db : MapRows} {old new : Option MapAssetRow} {id : String}
    {row : MapVersionRow} (h : hcProtectSubmittedMapAsset db old new = .ok ())
    (hid : old.bind (fun asset => some asset.mapVersionId) = some id ∨
      new.bind (fun asset => some asset.mapVersionId) = some id)
    (hrow : db.parent id = some row) : ¬ Submitted row := by
  rw [hcProtectSubmittedMapAsset, require_eq_ok] at h
  refine h id (List.mem_append.mpr ?_) row hrow
  rcases hid with hold | hnew
  · obtain ⟨asset, rfl, hid⟩ := Option.bind_eq_some_iff.mp hold
    exact .inl (Option.mem_toList.mpr hid)
  · obtain ⟨asset, rfl, hid⟩ := Option.bind_eq_some_iff.mp hnew
    exact .inr (Option.mem_toList.mpr hid)

def mapTriggers : Triggers String MapVersionRow String MapAssetRow Submission where
  Frozen := Submitted
  content := MapVersionRow.submission
  parentOf _ asset := some asset.mapVersionId
  passParent old new := ∀ row ∈ old, hcProtectSubmittedMapVersion row new = .ok ()
  passChild db old new := hcProtectSubmittedMapAsset db old new = .ok ()
  Deferred _ := False
  passDeferred _ _ := True
  frozen_of_pass old _ hfrozen hpass := submitted_of_protected hfrozen (hpass old rfl)
  linked _ _ _ _ h h' := absurd h h'
  thawed_of_pass _ _ _ _ _ hpass hid hrow := thawed_of_protectAsset hpass hid hrow

/-! ### The law -/

abbrev RoundSys (ι : Type) := Sys ι String GameRoundRow RoundDetailKey RoundDetail

abbrev RoundLabel (ι : Type) := Label ι String GameRoundRow RoundDetailKey RoundDetail

abbrev MapSys (ι : Type) := Sys ι String MapVersionRow String MapAssetRow

abbrev MapLabel (ι : Type) := Label ι String MapVersionRow String MapAssetRow

/-- A transaction that committed a terminal round had its bundle checked, and the round and its details
are those the check saw. -/
def RoundsFrozen {ι : Type} (ts : List (Transition (RoundSys ι) (RoundLabel ι))) (S : RoundSys ι) :
    Prop :=
  ∀ t ∈ ts, ∀ i tx roundId row, t.label = .commit i → t.pre.running i = some tx →
    tx.writes.parent roundId = some (some row) → Terminal row →
    ∃ seen, tx.checked roundId = some seen ∧ seen.parent roundId = S.committed.parent roundId ∧
      roundTriggers.details seen roundId = roundTriggers.details S.committed roundId

/-- A map version that a transaction committed as submitted has the identity and the content of the
submission, and the assets it had then. -/
def SubmissionsFrozen {ι : Type} (ts : List (Transition (MapSys ι) (MapLabel ι))) (S : MapSys ι) :
    Prop :=
  ∀ t ∈ ts, ∀ i tx versionId row, t.label = .commit i → t.pre.running i = some tx →
    tx.writes.parent versionId = some (some row) → Submitted row →
    (∃ row', S.committed.parent versionId = some row' ∧ row'.submission = row.submission) ∧
      mapTriggers.details t.post.committed versionId = mapTriggers.details S.committed versionId

/-- **Frozen evidence**, of transactions that do not overlap on a round or a map version when it
freezes. -/
theorem evidence_stays_frozen {ι : Type} [DecidableEq ι] :
    (∀ (db : RoundRows) (ts : List (Transition (RoundSys ι) (RoundLabel ι))) (S : RoundSys ι),
      Run (Step roundTriggers) (.start ι db) ts S → (∀ t ∈ ts, Orderly roundTriggers t) →
      RoundsFrozen ts S) ∧
    ∀ (db : MapRows) (ts : List (Transition (MapSys ι) (MapLabel ι))) (S : MapSys ι),
      Run (Step mapTriggers) (.start ι db) ts S → (∀ t ∈ ts, Orderly mapTriggers t) →
      SubmissionsFrozen ts S := by
  refine ⟨fun db ts S hrun horderly => ?_, fun db ts S hrun horderly => ?_⟩
  · intro t ht i tx roundId row hlabel hrunning hwritten hterminal
    obtain ⟨hkeeps, hchecked⟩ := frozen_evidence_stays hrun horderly t ht
    obtain ⟨seen, hseen, hparent, hdetails⟩ :=
      hchecked i tx roundId row hlabel hrunning hwritten hterminal
    have hstep := hrun.step_of_mem t ht
    rw [hlabel] at hstep
    have hrow : t.post.committed.parent roundId = some row := by
      rw [hstep.committed_eq hrunning]
      exact over_parent_of_some hwritten
    obtain ⟨-, hparent', hdetails'⟩ := hkeeps roundId ⟨row, hrow, hterminal⟩
    refine ⟨seen, hseen, ?_, hdetails.trans hdetails'⟩
    have hsame := hparent.trans hparent'
    rwa [show roundTriggers.content = id from rfl, Option.map_id, id, id] at hsame
  · intro t ht i tx versionId row hlabel hrunning hwritten hsubmitted
    have hstep := hrun.step_of_mem t ht
    rw [hlabel] at hstep
    have hrow : t.post.committed.parent versionId = some row := by
      rw [hstep.committed_eq hrunning]
      exact over_parent_of_some hwritten
    obtain ⟨-, hparent, hdetails⟩ :=
      (frozen_evidence_stays hrun horderly t ht).1 versionId ⟨row, hrow, hsubmitted⟩
    refine ⟨?_, hdetails⟩
    rw [hrow, Option.map_some, eq_comm, Option.map_eq_some_iff] at hparent
    exact hparent

/-! ### Runs that overlap, and runs that do not -/

def exampleRound : GameRoundRow where
  id := "r"
  lobbyId := "l"
  sequenceNumber := 1
  hunterCount := 1
  status := .hunting
  winningSide := none
  resultSchemaVersion := "1"
  scoringRuleVersion := "1"
  canonicalResultSha256 := none
  startedAt := 0
  endedAt := none
  abortReason := none

def abortedRound : GameRoundRow :=
  { exampleRound with status := .aborted, endedAt := some 1, abortReason := some "server_error" }

def exampleParticipant : RoundParticipantRow where
  id := "p"
  roundId := "r"
  playerId := "player"
  hunterVolunteer := false
  initialRole := .hider
  finalRole := .hider
  characterForm := "humanoid"
  sizePreset := "x1_0"
  outcome := .hiderSurvived
  survivalDurationMs := none
  finalScore := "0"
  scoreBreakdown := []
  foundOrConvertedAt := none
  reconnected := false

/-- One round that is being hunted in, and nothing else. -/
def huntedRound : RoundRows where
  parent id := if id = "r" then some exampleRound else none
  child _ := none

theorem passesBundle_aborted {db : RoundRows}
    (h : ∀ id row, db.child (.participant id) ≠ some (.participant row)) :
    passesBundle db abortedRound := by
  refine ⟨.fresh [] [], fun row _ => ⟨fun hmem => absurd hmem Table.not_mem_empty, fun hrow => ?_⟩,
    rfl⟩
  exact absurd hrow (h row.id row)

section

variable {κ P δ D : Type} {S : Sys Bool κ P δ D} {i : Bool}

theorem ne_iff_eq_not {i j : Bool} : j ≠ i ↔ j = !i := by
  cases i <;> cases j <;> decide

theorem parentFree_of_other {k : κ}
    (h : ∀ tx, S.running (!i) = some tx → tx.writes.parent k = none) : S.ParentFree i k := by
  intro j tx hj hrunning
  rw [ne_iff_eq_not.mp hj] at hrunning
  exact h tx hrunning

theorem childFree_of_other {k : δ}
    (h : ∀ tx, S.running (!i) = some tx → tx.writes.child k = none) : S.ChildFree i k := by
  intro j tx hj hrunning
  rw [ne_iff_eq_not.mp hj] at hrunning
  exact h tx hrunning

end

theorem checked_of_set {κ P V : Type} [DecidableEq κ] {k r : κ} {new : Option P} {row : P} {seen : V}
    {written : κ → Option (Option P)} {checked : κ → Option V} (hnothing : written = fun _ => none)
    (h : Function.update written k (some new) r = some (some row)) :
    Function.update checked k (some seen) r ≠ none := by
  by_cases hr : r = k
  · rw [hr, Function.update_self]
    exact Option.some_ne_none seen
  · rw [Function.update_of_ne hr, hnothing] at h
    cases h

def draftVersion : MapVersionRow where
  mapId := "m"
  versionNumber := "1.0.0"
  manifest := "{}"
  licenseDeclarationVersion := "1"
  licenseAcceptedAt := 0
  submittedAt := none
  status := "draft"
  updatedAt := 0

def submittedVersion : MapVersionRow := { draftVersion with submittedAt := some 1 }

def exampleAsset : MapAssetRow where
  mapVersionId := "v"
  kind := "package"
  objectStorageKey := "key"
  mediaType := "application/zip"
  sizeBytes := 1
  sha256 := "00"
  sortOrder := 0

/-- One version that is not submitted, and no asset. -/
def draftedMap : MapRows where
  parent id := if id = "v" then some draftVersion else none
  child _ := none

theorem overlapping_insert_changes_round :
    ∃ (ts : List (Transition (RoundSys Bool) (RoundLabel Bool))) (S : RoundSys Bool),
      Run (Step roundTriggers) (.start Bool huntedRound) ts S ∧ ¬ RoundsFrozen ts S := by
  have hstart : Run (Step roundTriggers) (Sys.start Bool huntedRound) [] _ := .refl _
  have hbegin := (hstart.snoc (show Step _ _ (.start true .readCommitted) _ from .start rfl)).snoc
    (show Step _ _ (.start false .readCommitted) _ from .start rfl)
  have hinsert := hbegin.snoc (show Step _ _ (.writeChild true (.participant "p")
      (some (.participant exampleParticipant))) _ from
    .writeChild rfl rfl (childFree_of_other fun tx h => by cases h; rfl) rfl rfl)
  have habort := hinsert.snoc (show Step _ _ (.writeParent false "r" (some abortedRound)) _ from
    .writeParent rfl rfl (parentFree_of_other fun tx h => by cases h; rfl) rfl
      ⟨fun row hrow => by cases hrow; rfl, fun row hrow => by cases hrow; rfl⟩)
  have hcheck := habort.snoc (show Step _ _ (.check false "r") _ from
    .check rfl rfl (.inr rfl) (passesBundle_aborted fun id row h => by cases h))
  have hcommit := hcheck.snoc (show Step _ _ (.commit false) _ from
    .commit rfl fun roundId row hrow _ => checked_of_set rfl hrow)
  have hlate := hcommit.snoc (show Step _ _ (.commit true) _ from
    .commit rfl fun r row h _ => by cases h)
  refine ⟨_, _, hlate, fun hfrozen => ?_⟩
  obtain ⟨seen, hseen, -, hdetails⟩ := hfrozen _
    (List.mem_append_left _ (List.mem_append_right _ (List.mem_singleton_self _)))
    false _ "r" abortedRound rfl rfl rfl (.inr rfl)
  have hrow : roundTriggers.details seen "r" (.participant "p") =
      some (.participant exampleParticipant) := by
    rw [hdetails]
    exact details_eq_some.mpr ⟨rfl, rfl⟩
  obtain rfl := Option.some.inj hseen
  cases (details_eq_some.mp hrow).1

theorem overlapping_insert_changes_submission :
    ∃ (ts : List (Transition (MapSys Bool) (MapLabel Bool))) (S : MapSys Bool),
      Run (Step mapTriggers) (.start Bool draftedMap) ts S ∧ ¬ SubmissionsFrozen ts S := by
  have hstart : Run (Step mapTriggers) (Sys.start Bool draftedMap) [] _ := .refl _
  have hbegin := (hstart.snoc (show Step _ _ (.start true .readCommitted) _ from .start rfl)).snoc
    (show Step _ _ (.start false .readCommitted) _ from .start rfl)
  have hinsert := hbegin.snoc (show Step _ _ (.writeChild true "a" (some exampleAsset)) _ from
    .writeChild rfl rfl (childFree_of_other fun tx h => by cases h; rfl) rfl rfl)
  have hsubmit := hinsert.snoc (show Step _ _ (.writeParent false "v" (some submittedVersion)) _ from
    .writeParent rfl rfl (parentFree_of_other fun tx h => by cases h; rfl) rfl
      fun row hrow => by cases hrow; rfl)
  have hcommit := hsubmit.snoc (show Step _ _ (.commit false) _ from
    .commit rfl fun _ _ _ hnever => hnever.elim)
  have hlate := hcommit.snoc (show Step _ _ (.commit true) _ from
    .commit rfl fun _ _ _ hnever => hnever.elim)
  refine ⟨_, _, hlate, fun hfrozen => ?_⟩
  obtain ⟨-, hdetails⟩ := hfrozen _
    (List.mem_append_left _ (List.mem_append_right _ (List.mem_singleton_self _)))
    false _ "v" submittedVersion rfl rfl rfl (Option.some_ne_none 1)
  have hrow := (congrFun hdetails "a").trans ((details_eq_some (d := exampleAsset)).mpr ⟨rfl, rfl⟩)
  cases (details_eq_some.mp hrow).1

/-- **The evidence is not frozen** for every interleaving. -/
theorem evidence_not_frozen :
    ¬ ((∀ (db : RoundRows) (ts : List (Transition (RoundSys Bool) (RoundLabel Bool)))
        (S : RoundSys Bool), Run (Step roundTriggers) (.start Bool db) ts S → RoundsFrozen ts S) ∨
      ∀ (db : MapRows) (ts : List (Transition (MapSys Bool) (MapLabel Bool))) (S : MapSys Bool),
        Run (Step mapTriggers) (.start Bool db) ts S → SubmissionsFrozen ts S) := by
  rintro (hrounds | hmaps)
  · obtain ⟨ts, S, hrun, hnot⟩ := overlapping_insert_changes_round
    exact hnot (hrounds huntedRound ts S hrun)
  · obtain ⟨ts, S, hrun, hnot⟩ := overlapping_insert_changes_submission
    exact hnot (hmaps draftedMap ts S hrun)

theorem orderly_commit_alone {κ P δ D C : Type} [DecidableEq κ] {T : Triggers κ P δ D C}
    {S S' : Sys Bool κ P δ D} {i : Bool} (halone : S.running (!i) = none) :
    Orderly T ⟨S, .commit i, S'⟩ := by
  intro tx htx
  refine ⟨fun r _ _ hcontended => ?_, fun j other r seen hj hother => ?_⟩
  · obtain ⟨j, other, k, new, hj, hother, -⟩ := hcontended
    rw [ne_iff_eq_not.mp hj] at hother
    cases halone.symm.trans hother
  · change S.running j = some other at hother
    rw [ne_iff_eq_not.mp hj] at hother
    cases halone.symm.trans hother

theorem orderly_commit_beside {κ P δ D C : Type} [DecidableEq κ] {T : Triggers κ P δ D C}
    {S S' : Sys Bool κ P δ D} {i : Bool} {tx other : Tx κ P δ D} (htx : S.running i = some tx)
    (hother : S.running (!i) = some other) (hunchecked : ∀ r, other.checked r = none)
    (hapart : ∀ r, T.FrozenIn (S.committed.over tx.writes) r → ∀ k new,
      other.writes.child k = some new → ¬ T.Touches (S.committed.over tx.writes) k new r) :
    Orderly T ⟨S, .commit i, S'⟩ := by
  intro tx' htx'
  obtain rfl := Option.some.inj (htx.symm.trans htx')
  refine ⟨fun r hfrozen _ hcontended => ?_, fun j other' r seen hj hother' hseen => ?_⟩
  · obtain ⟨j, other', k, new, hj, hother', hwrite, htouches⟩ := hcontended
    rw [ne_iff_eq_not.mp hj] at hother'
    obtain rfl := Option.some.inj (hother.symm.trans hother')
    exact hapart r hfrozen k new hwrite htouches
  · change S.running j = some other' at hother'
    rw [ne_iff_eq_not.mp hj] at hother'
    obtain rfl := Option.some.inj (hother.symm.trans hother')
    rw [hunchecked r] at hseen
    cases hseen

/-- A participant of another round than the aborted one. -/
def otherParticipant : RoundParticipantRow := { exampleParticipant with roundId := "s" }

/-- Two rounds of two lobbies that are being hunted in. -/
def huntedRounds : RoundRows where
  parent id := if id = "r" then some exampleRound
    else if id = "s" then some { exampleRound with id := "s", lobbyId := "l2" } else none
  child _ := none

theorem huntedRounds_not_frozen {roundId : String} : ¬ roundTriggers.FrozenIn huntedRounds roundId := by
  rintro ⟨row, hrow, hterminal⟩
  have hhunting : row.status = .hunting := by
    change (if roundId = "r" then _ else if roundId = "s" then _ else _) = some row at hrow
    split at hrow
    · rw [← Option.some.inj hrow]
      rfl
    · split at hrow
      · rw [← Option.some.inj hrow]
        rfl
      · cases hrow
  rcases hterminal with h | h <;> rw [hhunting] at h <;> cases h

theorem not_frozen_draftedMap {versionId : String} : ¬ mapTriggers.FrozenIn draftedMap versionId := by
  rintro ⟨row, hrow, hsubmitted⟩
  have hdraft : row = draftVersion := by
    change (if versionId = "v" then some draftVersion else none) = some row at hrow
    split at hrow
    · exact (Option.some.inj hrow).symm
    · cases hrow
  rw [hdraft] at hsubmitted
  exact absurd rfl hsubmitted

/-- A round is aborted while a participant of another one is inserted. -/
theorem orderly_rounds :
    ∃ (ts : List (Transition (RoundSys Bool) (RoundLabel Bool))) (S : RoundSys Bool),
      Run (Step roundTriggers) (.start Bool huntedRounds) ts S ∧ ts.length = 7 ∧
        S.committed.parent "r" = some abortedRound ∧
        S.committed.child (.participant "p") = some (.participant otherParticipant) ∧
        ∀ t ∈ ts, Orderly roundTriggers t := by
  have hstart : Run (Step roundTriggers) (Sys.start Bool huntedRounds) [] _ := .refl _
  have hbegin := (hstart.snoc (show Step _ _ (.start true .readCommitted) _ from .start rfl)).snoc
    (show Step _ _ (.start false .readCommitted) _ from .start rfl)
  have hinsert := hbegin.snoc (show Step _ _ (.writeChild true (.participant "p")
      (some (.participant otherParticipant))) _ from
    .writeChild rfl rfl (childFree_of_other fun tx h => by cases h; rfl) rfl rfl)
  have habort := hinsert.snoc (show Step _ _ (.writeParent false "r" (some abortedRound)) _ from
    .writeParent rfl rfl (parentFree_of_other fun tx h => by cases h; rfl) rfl
      ⟨fun row hrow => by cases hrow; rfl, fun row hrow => by cases hrow; rfl⟩)
  have hcheck := habort.snoc (show Step _ _ (.check false "r") _ from
    .check rfl rfl (.inr rfl) (passesBundle_aborted fun id row h => by cases h))
  have hcommit := hcheck.snoc (show Step _ _ (.commit false) _ from
    .commit rfl fun roundId row hrow _ => checked_of_set rfl hrow)
  have hdone := hcommit.snoc (show Step _ _ (.commit true) _ from .commit rfl fun r row h _ => by cases h)
  refine ⟨_, _, hdone, rfl, rfl, rfl, fun t ht => ?_⟩
  simp only [List.nil_append, List.cons_append, List.mem_cons, List.not_mem_nil, or_false] at ht
  rcases ht with rfl | rfl | rfl | rfl | rfl | rfl | rfl
  · exact trivial
  · exact trivial
  · exact fun tx htx roundId hfrozen => absurd hfrozen huntedRounds_not_frozen
  · exact trivial
  · intro tx htx
    obtain rfl := Option.some.inj htx
    rfl
  · refine orderly_commit_beside rfl rfl (fun _ => rfl) fun roundId hfrozen k new hwrite htouches => ?_
    -- the row that the other transaction has written belongs to the round that goes on
    obtain ⟨row, hrow, hterminal⟩ := hfrozen
    rcases htouches with hold | hnew
    · cases hold
    · change Function.update (fun _ => none) (RoundDetailKey.participant "p") _ k = some new at hwrite
      by_cases hk : k = .participant "p"
      · rw [hk, Function.update_self] at hwrite
        obtain rfl := Option.some.inj hwrite
        obtain rfl := Option.some.inj hnew
        obtain rfl := Option.some.inj hrow
        rcases hterminal with h | h <;> cases h
      · rw [Function.update_of_ne hk] at hwrite
        cases hwrite
  · exact orderly_commit_alone rfl

/-- A version is submitted after its asset is there. -/
theorem orderly_submissions :
    ∃ (ts : List (Transition (MapSys Bool) (MapLabel Bool))) (S : MapSys Bool),
      Run (Step mapTriggers) (.start Bool draftedMap) ts S ∧ ts.length = 6 ∧
        ∀ t ∈ ts, Orderly mapTriggers t := by
  have hstart : Run (Step mapTriggers) (Sys.start Bool draftedMap) [] _ := .refl _
  have hbegin := hstart.snoc (show Step _ _ (.start true .readCommitted) _ from .start rfl)
  have hinsert := hbegin.snoc (show Step _ _ (.writeChild true "a" (some exampleAsset)) _ from
    .writeChild rfl rfl (childFree_of_other fun tx h => by cases h) rfl rfl)
  have hdone := (hinsert.snoc (show Step _ _ (.commit true) _ from
    .commit rfl fun _ _ _ hnever => hnever.elim)).snoc
    (show Step _ _ (.start false .repeatableRead) _ from .start rfl)
  have hsubmit := hdone.snoc (show Step _ _ (.writeParent false "v" (some submittedVersion)) _ from
    .writeParent rfl rfl (parentFree_of_other fun tx h => by cases h) rfl
      fun row hrow => by cases hrow; rfl)
  have hcommit := hsubmit.snoc (show Step _ _ (.commit false) _ from
    .commit rfl fun _ _ _ hnever => hnever.elim)
  refine ⟨_, _, hcommit, rfl, fun t ht => ?_⟩
  simp only [List.nil_append, List.cons_append, List.mem_cons, List.not_mem_nil, or_false] at ht
  rcases ht with rfl | rfl | rfl | rfl | rfl | rfl
  · exact trivial
  · exact fun tx htx versionId hfrozen => absurd hfrozen not_frozen_draftedMap
  · exact orderly_commit_alone rfl
  · exact trivial
  · exact trivial
  · exact orderly_commit_alone rfl

theorem evidence_stays_frozen_apart :
    (∃ (ts : List (Transition (RoundSys Bool) (RoundLabel Bool))) (S : RoundSys Bool),
      Run (Step roundTriggers) (.start Bool huntedRounds) ts S ∧ ts.length = 7 ∧
        S.committed.parent "r" = some abortedRound ∧
        S.committed.child (.participant "p") = some (.participant otherParticipant) ∧
        RoundsFrozen ts S) ∧
    ∃ (ts : List (Transition (MapSys Bool) (MapLabel Bool))) (S : MapSys Bool),
      Run (Step mapTriggers) (.start Bool draftedMap) ts S ∧ ts.length = 6 ∧
        SubmissionsFrozen ts S := by
  obtain ⟨ts, S, hrun, hlength, hround, hparticipant, horderly⟩ := orderly_rounds
  obtain ⟨ts', S', hrun', hlength', horderly'⟩ := orderly_submissions
  exact ⟨⟨ts, S, hrun, hlength, hround, hparticipant, evidence_stays_frozen.1 _ _ _ hrun horderly⟩,
    ts', S', hrun', hlength', evidence_stays_frozen.2 _ _ _ hrun' horderly'⟩

end HiveChameleon.Integrity
