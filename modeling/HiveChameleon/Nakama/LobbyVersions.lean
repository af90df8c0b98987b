import HiveChameleon.Lib.Snapshot
import HiveChameleon.Nakama.LobbyGuarantees

/-!
# Nakama.LobbyVersions — no versioned command loses an update

The transactions of the lobby store interleave: each works on the snapshot that it began with, and of
two that change one row the second one to commit fails.  A command that carries an expected version
changes the lobby of exactly that version, and no two commands change the same one.  An error of `COMMIT`
alone leaves open whether the command was applied.
-/

namespace HiveChameleon.Nakama.Lobby

open Lib

/-! ### What a command does to the lobby rows -/

deriving instance DecidableEq for LobbyCommand

/-- The lobby and the version that a versioned command expects. -/
def LobbyCommand.expects : LobbyCommand → Option (String × ℤ)
  | .updateConfiguration _ _ request => some (request.lobbyId, request.expectedLobbyVersion)
  | .recordNominationChange _ request => some (request.lobbyId, request.expectedLobbyVersion)
  | .startRound _ _ _ _ request => some (request.lobbyId, request.expectedLobbyVersion)
  | .create .. | .join .. | .leave .. => none

/-- No row is lost and no version goes back. -/
def RowAdvances (row row' : Option LobbyRow) : Prop :=
  ∀ lobby ∈ row, ∃ lobby' ∈ row', lobby.rowVersion ≤ lobby'.rowVersion

def RowsAdvance (db db' : Db) : Prop :=
  ∀ lobbyId, RowAdvances (db.lobby.find? lobbyId) (db'.lobby.find? lobbyId)

section

variable {db db' db'' : Db} {lobbyId : String} {f : LobbyView → LobbyView} {lobby lobby' : LobbyRow}

theorem RowAdvances.refl (row : Option LobbyRow) : RowAdvances row row :=
  fun lobby hlobby => ⟨lobby, hlobby, le_refl _⟩

theorem RowsAdvance.refl (db : Db) : RowsAdvance db db := fun _ => .refl _

theorem RowsAdvance.trans (h : RowsAdvance db db') (h' : RowsAdvance db' db'') :
    RowsAdvance db db'' := by
  intro lobbyId lobby hlobby
  obtain ⟨lobby', hlobby', hle⟩ := h lobbyId lobby hlobby
  obtain ⟨lobby'', hlobby'', hle'⟩ := h' lobbyId lobby' hlobby'
  exact ⟨lobby'', hlobby'', hle.trans hle'⟩

theorem RowsAdvance.of_changes (h : Changes lobbyId f db db')
    (hrow : RowAdvances (view lobbyId db).lobby (f (view lobbyId db)).lobby) : RowsAdvance db db' := by
  intro id
  by_cases hid : id = lobbyId
  · have hown : db'.lobby.find? lobbyId = (f (view lobbyId db)).lobby :=
      congrArg LobbyView.lobby h.own
    rw [hid, hown]
    exact hrow
  · have hother : db'.lobby.find? id = db.lobby.find? id := congrArg LobbyView.lobby (h.others id hid)
    rw [hother]
    exact .refl _

theorem rowAdvances_map {row : Option LobbyRow} {set : LobbyRow → LobbyRow}
    (hset : ∀ lobby, lobby.rowVersion ≤ (set lobby).rowVersion) : RowAdvances row (row.map set) :=
  fun lobby hlobby => ⟨set lobby, Option.mem_map_of_mem set hlobby, hset lobby⟩

theorem advanceVersion_le (lobby : LobbyRow) :
    lobby.rowVersion ≤ (advanceVersion.set lobby).rowVersion := by
  show lobby.rowVersion ≤ lobby.rowVersion + 1
  omega

/-- The lobby of the expected version, and its next version. -/
def Bumps (lobbyId : String) (expected : ℤ) (db db' : Db) : Prop :=
  ∃ lobby, db.lobby.find? lobbyId = some lobby ∧ lobby.rowVersion = expected ∧
    db'.lobby.find? lobbyId = some (advanceVersion lobby)

theorem Bumps.of_changes (h : Changes lobbyId f db db') (hlobby : db.lobby.find? lobbyId = some lobby)
    (hf : (f (view lobbyId db)).lobby = (view lobbyId db).lobby.map advanceVersion.set) :
    Bumps lobbyId lobby.rowVersion db db' ∧ RowsAdvance db db' := by
  refine ⟨⟨lobby, hlobby, rfl, ?_⟩, .of_changes h ?_⟩
  · have hown : db'.lobby.find? lobbyId = (f (view lobbyId db)).lobby :=
      congrArg LobbyView.lobby h.own
    have hview : (view lobbyId db).lobby = some lobby := hlobby
    rw [hown, hf, hview]
    rfl
  · rw [hf]
    exact rowAdvances_map advanceVersion_le

variable {snapshot : LobbySnapshot}

theorem lockHostConfiguration_version {playerId : String} {expectedVersion : ℤ}
    {locked : LobbyConfiguration × ℤ}
    (h : lockHostConfiguration lobbyId playerId expectedVersion db = .ok locked) :
    ∃ lobby, db.lobby.find? lobbyId = some lobby ∧ lobby.rowVersion = expectedVersion := by
  unfold lockHostConfiguration at h
  split at h
  · rename_i lobby _ _ hfind _ _
    simp only [bind_eq_ok, exists_unit, require_eq_ok] at h
    exact ⟨lobby, hfind, h.2.2.2.1⟩
  · cases h

theorem updateConfiguration_bumps {now : Time} {playerId : String}
    {request : UpdateLobbyConfigurationRequest}
    (h : updateConfiguration now playerId request db = .ok (snapshot, db')) :
    Bumps request.lobbyId request.expectedLobbyVersion db db' ∧ RowsAdvance db db' := by
  simp only [updateConfiguration, bind_eq_ok, exists_unit, pure_eq_ok, Prod.mk.injEq] at h
  obtain ⟨_, hlock, -, _, -, db₁, h₁, db₂, h₂, _, -, db₃, h₃, -, rfl⟩ := h
  obtain ⟨lobby, hlobby, hversion⟩ := lockHostConfiguration_version hlock
  obtain ⟨rfl, -⟩ := commitLobby_spec h₃
  rw [← hversion]
  exact Bumps.of_changes ((updateLobbyConfiguration_spec h₁).1.trans (updateLobby_spec h₂).1) hlobby rfl

theorem recordNominationChange_bumps {playerId : String} {request : NominateHunterRequest}
    (h : recordNominationChange playerId request db = .ok (snapshot, db')) :
    Bumps request.lobbyId request.expectedLobbyVersion db db' ∧ RowsAdvance db db' := by
  unfold recordNominationChange at h
  cases hfind : db.lobby.find? request.lobbyId with
  | none =>
    rw [hfind] at h
    cases h
  | some lobby =>
    rw [hfind] at h
    simp only [bind_eq_ok, exists_unit, require_eq_ok, pure_eq_ok, Prod.mk.injEq] at h
    obtain ⟨-, hversion, -, db₁, h₁, -, db₂, h₂, _, -, db₃, h₃, -, rfl⟩ := h
    obtain ⟨rfl, -⟩ := commitLobby_spec h₃
    rw [← hversion]
    exact Bumps.of_changes ((updateMembers_spec (fun _ => rfl) h₁).1.trans (updateLobby_spec h₂).1) hfind rfl

theorem startRound_bumps {roundId : String} {startedAt : Time} {random : Random}
    {playerId : String} {request : StartLobbyRequest} {round : RoundSnapshot}
    (h : startRound roundId startedAt random playerId request db = .ok (snapshot, round, db')) :
    Bumps request.lobbyId request.expectedLobbyVersion db db' ∧ RowsAdvance db db' := by
  simp only [startRound, bind_eq_ok, pure_eq_ok, Prod.mk.injEq] at h
  obtain ⟨_, hlock, _, -, db₁, h₁, db₂, h₂, db₃, h₃, _, -, db₄, h₄, -, -, rfl⟩ := h
  obtain ⟨lobby, hlobby, hversion⟩ := lockHostConfiguration_version hlock
  obtain ⟨rfl, -⟩ := commitLobby_spec h₄
  have hround : Changes request.lobbyId _ db db₁ := (insertRound_spec h₁).1
  rw [← hversion]
  exact Bumps.of_changes ((hround.trans (updateLobby_spec h₂).1).trans (updateMembers_spec (fun _ => rfl) h₃).1)
    hlobby rfl

theorem create_rows {draw : CreateDraw} {now : Time} {playerId : String}
    {request : CreateLobbyRequest} {passwordHash : String}
    (h : create draw now playerId request passwordHash db = .ok (snapshot, db')) :
    RowsAdvance db db' := by
  unfold create at h
  cases hcurrent : openMembership playerId db with
  | some existing =>
    rw [hcurrent] at h
    simp only [bind_eq_ok, pure_eq_ok, Prod.mk.injEq] at h
    obtain ⟨_, -, -, rfl⟩ := h
    exact .refl db
  | none =>
    rw [hcurrent] at h
    simp only [bind_eq_ok, exists_unit, pure_eq_ok, Prod.mk.injEq] at h
    obtain ⟨-, db₁, h₁, db₂, h₂, db₃, h₃, db₄, h₄, _, -, db₅, h₅, -, rfl⟩ := h
    obtain ⟨-, habsent, hc₁, -⟩ := insertLobby_spec h₁
    obtain ⟨rfl, -⟩ := commitLobby_spec h₅
    have hchanges : Changes draw.lobbyId _ db db₅ := ((hc₁.trans (insertMembership_spec h₂).2.1).trans
      (insertHostAssignment_spec h₃).1).trans (insertConfiguration_spec h₄).1
    refine .of_changes hchanges fun lobby hlobby => ?_
    have hnone : (view draw.lobbyId db).lobby = none := habsent
    rw [hnone] at hlobby
    cases hlobby

theorem join_rows {bcrypt : PasswordCheck} {membershipId : String} {transactionTime : Time}
    {playerId : String} {request : JoinLobbyRequest}
    (h : join bcrypt membershipId transactionTime playerId request db = .ok (snapshot, db')) :
    RowsAdvance db db' := by
  unfold join at h
  cases hfind : db.lobby.find? request.lobbyId with
  | none =>
    rw [hfind] at h
    cases h
  | some lobby =>
    rw [hfind] at h
    simp only [bind_eq_ok, exists_unit, require_eq_ok] at h
    obtain ⟨-, -, h⟩ := h
    cases hcurrent : openMembership playerId db with
    | some current =>
      rw [hcurrent] at h
      simp only [bind_eq_ok, exists_unit, pure_eq_ok, Prod.mk.injEq] at h
      obtain ⟨-, _, -, -, rfl⟩ := h
      exact .refl db
    | none =>
      rw [hcurrent] at h
      simp only [bind_eq_ok, exists_unit, require_eq_ok, pure_eq_ok, Prod.mk.injEq] at h
      obtain ⟨-, -, db₁, h₁, db₂, h₂, _, -, db₃, h₃, -, rfl⟩ := h
      obtain ⟨rfl, -⟩ := commitLobby_spec h₃
      have hjoined : Changes request.lobbyId _ db db₁ := (insertMembership_spec h₁).2.1
      exact (Bumps.of_changes (hjoined.trans (updateLobby_spec h₂).1) hfind rfl).2

theorem leave_rows {assignmentId : String} {now : Time} {playerIds : List String}
    {hostReason : HostAssignmentReason} {closed : Bool}
    (h : leave assignmentId now lobbyId playerIds hostReason db = .ok (snapshot, closed, db')) :
    RowsAdvance db db' := by
  unfold leave at h
  cases hfind : db.lobby.find? lobbyId with
  | none =>
    rw [hfind] at h
    cases h
  | some lobby =>
    simp only [hfind] at h
    by_cases hclosed : lobby.closedAt ≠ none
    · rw [if_pos hclosed] at h
      simp only [bind_eq_ok, pure_eq_ok, Prod.mk.injEq] at h
      obtain ⟨_, -, -, -, rfl⟩ := h
      exact .refl db
    rw [if_neg hclosed] at h
    by_cases hnone : departing lobbyId playerIds db = []
    · rw [if_pos hnone] at h
      simp only [bind_eq_ok, pure_eq_ok, Prod.mk.injEq] at h
      obtain ⟨_, -, -, -, rfl⟩ := h
      exact .refl db
    rw [if_neg hnone] at h
    simp only [bind_eq_ok, pure_eq_ok, Prod.mk.injEq] at h
    obtain ⟨db₁, h₁, ⟨closed', db₂⟩, h₂, _, -, db₃, h₃, -, -, rfl⟩ := h
    obtain ⟨hc₁, -⟩ := updateMembers_spec (fun _ => rfl) h₁
    obtain ⟨rfl, -⟩ := commitLobby_spec h₃
    by_cases hhost : lobby.currentHostPlayerId ∈ departing lobbyId playerIds db
    · rw [if_pos hhost] at h₂
      rcases (replaceHost_spec h₂).2 with ⟨-, hc₂⟩ | ⟨m, row, -, hc₂⟩
      · refine .of_changes (hc₁.trans hc₂) (rowAdvances_map fun lobby => ?_)
        show lobby.rowVersion ≤ lobby.rowVersion + 1
        omega
      · refine .of_changes (hc₁.trans hc₂) (rowAdvances_map fun lobby => ?_)
        show lobby.rowVersion ≤ lobby.rowVersion + 1
        omega
    · rw [if_neg hhost] at h₂
      simp only [bind_eq_ok, pure_eq_ok, Prod.mk.injEq] at h₂
      obtain ⟨db₄, h₄, -, rfl⟩ := h₂
      exact .of_changes (hc₁.trans (updateLobby_spec h₄).1) (rowAdvances_map advanceVersion_le)

/-- **What a command that succeeds does**: no version goes back, and a versioned command takes the
version it expects to the next one. -/
theorem commit_versions {bcrypt : PasswordCheck} {c : LobbyCommand} (h : c.commit bcrypt db = .ok db') :
    RowsAdvance db db' ∧ ∀ id expected, c.expects = some (id, expected) → Bumps id expected db db' := by
  cases c with
  | create draw now playerId request passwordHash =>
    simp only [LobbyCommand.commit, bind_eq_ok, pure_eq_ok] at h
    obtain ⟨⟨_, _⟩, hdone, rfl⟩ := h
    exact ⟨create_rows hdone, fun _ _ heq => by cases heq⟩
  | join membershipId transactionTime playerId request =>
    simp only [LobbyCommand.commit, bind_eq_ok, pure_eq_ok] at h
    obtain ⟨⟨_, _⟩, hdone, rfl⟩ := h
    exact ⟨join_rows hdone, fun _ _ heq => by cases heq⟩
  | leave assignmentId now lobbyId playerIds hostReason =>
    simp only [LobbyCommand.commit, bind_eq_ok, pure_eq_ok] at h
    obtain ⟨⟨_, _, _⟩, hdone, rfl⟩ := h
    exact ⟨leave_rows hdone, fun _ _ heq => by cases heq⟩
  | updateConfiguration now playerId request =>
    simp only [LobbyCommand.commit, bind_eq_ok, pure_eq_ok] at h
    obtain ⟨⟨_, _⟩, hdone, rfl⟩ := h
    obtain ⟨hbumps, hrows⟩ := updateConfiguration_bumps hdone
    refine ⟨hrows, fun id expected heq => ?_⟩
    obtain ⟨rfl, rfl⟩ := Prod.mk.inj (Option.some.inj heq)
    exact hbumps
  | recordNominationChange playerId request =>
    simp only [LobbyCommand.commit, bind_eq_ok, pure_eq_ok] at h
    obtain ⟨⟨_, _⟩, hdone, rfl⟩ := h
    obtain ⟨hbumps, hrows⟩ := recordNominationChange_bumps hdone
    refine ⟨hrows, fun id expected heq => ?_⟩
    obtain ⟨rfl, rfl⟩ := Prod.mk.inj (Option.some.inj heq)
    exact hbumps
  | startRound roundId startedAt random playerId request =>
    simp only [LobbyCommand.commit, bind_eq_ok, pure_eq_ok] at h
    obtain ⟨⟨_, _, _⟩, hdone, rfl⟩ := h
    obtain ⟨hbumps, hrows⟩ := startRound_bumps hdone
    refine ⟨hrows, fun id expected heq => ?_⟩
    obtain ⟨rfl, rfl⟩ := Prod.mk.inj (Option.some.inj heq)
    exact hbumps

end

/-! ### Interleaved transactions -/

/-- What a transaction that took `base` to `after` leaves of `committed`. -/
structure Commits (base after committed merged : Db) : Prop where
  lobby : Table.Commits base.lobby after.lobby committed.lobby merged.lobby
  lobbyMembership : Table.Commits base.lobbyMembership after.lobbyMembership
    committed.lobbyMembership merged.lobbyMembership
  lobbyHostAssignment : Table.Commits base.lobbyHostAssignment after.lobbyHostAssignment
    committed.lobbyHostAssignment merged.lobbyHostAssignment
  lobbyConfiguration : Table.Commits base.lobbyConfiguration after.lobbyConfiguration
    committed.lobbyConfiguration merged.lobbyConfiguration
  gameRound : Table.Commits base.gameRound after.gameRound committed.gameRound merged.gameRound
  mapVersion : merged.mapVersion = committed.mapVersion

/-- The committed rows, and for each session the command it runs with the snapshot it began on. -/
structure LobbySessions (ι : Type) where
  committed : Db
  running : ι → Option (LobbyCommand × Db)

/-- What a session does: it starts a command, and the command reports a change (`commit`), an error of
its own (`refuse`), an error of the database before its `COMMIT` (`fail`), or the error of its `COMMIT`. -/
inductive SessionLabel (ι : Type) where
  | start (i : ι) (c : LobbyCommand)
  | commit (i : ι) (c : LobbyCommand)
  | commitError (i : ι) (c : LobbyCommand)
  | refuse (i : ι) (c : LobbyCommand) (error : LobbyError)
  | fail (i : ι) (c : LobbyCommand)
  | roundUpdate (update : RoundUpdate)
  | mapVersions (versions : List (String × MapVersionStatus))

section

variable {ι : Type} [DecidableEq ι]

/-- The session `i` is done; the others go on. -/
def LobbySessions.finish (S : LobbySessions ι) (i : ι) (committed : Db) : LobbySessions ι where
  committed := committed
  running := Function.update S.running i none

/-- A serialization failure may end any transaction: `fail` has no guard.  An error of `COMMIT` comes
from a refused transaction, or from a connection that broke after the database had committed it. -/
inductive SessionStep (bcrypt : PasswordCheck) :
    LobbySessions ι → SessionLabel ι → LobbySessions ι → Prop where
  | start {S : LobbySessions ι} {i : ι} {c : LobbyCommand} (hidle : S.running i = none) :
      SessionStep bcrypt S (.start i c)
        { S with running := Function.update S.running i (some (c, S.committed)) }
  | commit {S : LobbySessions ι} {i : ι} {c : LobbyCommand} {base after merged : Db}
      (hrunning : S.running i = some (c, base)) (hdone : c.commit bcrypt base = .ok after)
      (hcommits : Commits base after S.committed merged) :
      SessionStep bcrypt S (.commit i c) (S.finish i merged)
  | rejected {S : LobbySessions ι} {i : ι} {c : LobbyCommand} {base after : Db}
      (hrunning : S.running i = some (c, base)) (hdone : c.commit bcrypt base = .ok after) :
      SessionStep bcrypt S (.commitError i c) (S.finish i S.committed)
  | unacknowledged {S : LobbySessions ι} {i : ι} {c : LobbyCommand} {base after merged : Db}
      (hrunning : S.running i = some (c, base)) (hdone : c.commit bcrypt base = .ok after)
      (hcommits : Commits base after S.committed merged) :
      SessionStep bcrypt S (.commitError i c) (S.finish i merged)
  | refuse {S : LobbySessions ι} {i : ι} {c : LobbyCommand} {base : Db} {error : LobbyError}
      (hrunning : S.running i = some (c, base)) (hdone : c.commit bcrypt base = .error error) :
      SessionStep bcrypt S (.refuse i c error) (S.finish i S.committed)
  | fail {S : LobbySessions ι} {i : ι} {c : LobbyCommand} {base : Db}
      (hrunning : S.running i = some (c, base)) :
      SessionStep bcrypt S (.fail i c) (S.finish i S.committed)
  | roundUpdate {S : LobbySessions ι} {update : RoundUpdate} :
      SessionStep bcrypt S (.roundUpdate update)
        { S with committed := updateRound update S.committed }
  | mapVersions {S : LobbySessions ι} {versions : List (String × MapVersionStatus)} :
      SessionStep bcrypt S (.mapVersions versions)
        { S with committed := { S.committed with mapVersion := versions } }

/-- No command runs. -/
def LobbySessions.idle (ι : Type) (db : Db) : LobbySessions ι := ⟨db, fun _ => none⟩

/-- The tables of `db` hold the rows of `db'`. -/
def SameTables (db db' : Db) : Prop :=
  db.lobby.rows = db'.lobby.rows ∧ db.lobbyMembership.rows = db'.lobbyMembership.rows ∧
    db.lobbyHostAssignment.rows = db'.lobbyHostAssignment.rows ∧
    db.lobbyConfiguration.rows = db'.lobbyConfiguration.rows ∧ db.gameRound.rows = db'.gameRound.rows

instance (db db' : Db) : Decidable (SameTables db db') :=
  inferInstanceAs (Decidable (_ ∧ _ ∧ _ ∧ _ ∧ _))

/-- The session commits its command, when nothing else has been committed since its start. -/
def LobbySessions.execCommit (bcrypt : PasswordCheck) (S : LobbySessions ι) (i : ι) (c : LobbyCommand) :
    Option (LobbySessions ι) :=
  match S.running i with
  | none => none
  | some (c', base) =>
    match c.commit bcrypt base with
    | .error _ => none
    | .ok after =>
      if c' = c ∧ SameTables S.committed base then
        some (S.finish i { after with mapVersion := S.committed.mapVersion })
      else none

/-- A step that a schedule takes; an error of `COMMIT` is a lost acknowledgement there. -/
def LobbySessions.exec (bcrypt : PasswordCheck) (S : LobbySessions ι) :
    SessionLabel ι → Option (LobbySessions ι)
  | .start i c =>
    match S.running i with
    | none => some { S with running := Function.update S.running i (some (c, S.committed)) }
    | some _ => none
  | .commit i c => S.execCommit bcrypt i c
  | .commitError i c => S.execCommit bcrypt i c
  | .refuse i c error =>
    match S.running i with
    | none => none
    | some (c', base) =>
      match c.commit bcrypt base with
      | .ok _ => none
      | .error e => if c' = c ∧ e = error then some (S.finish i S.committed) else none
  | .fail i c =>
    match S.running i with
    | none => none
    | some (c', _) => if c' = c then some (S.finish i S.committed) else none
  | .roundUpdate update => some { S with committed := updateRound update S.committed }
  | .mapVersions versions => some { S with committed := { S.committed with mapVersion := versions } }

variable {bcrypt : PasswordCheck} {S S' : LobbySessions ι} {label : SessionLabel ι}
  {base after committed merged : Db} {lobbyId : String} {expected : ℤ}

theorem Commits.bumps (h : Commits base after committed merged)
    (hbumps : Bumps lobbyId expected base after) : Bumps lobbyId expected committed merged := by
  obtain ⟨lobby, hlobby, hversion, hafter⟩ := hbumps
  have hchanged : after.lobby.find? lobbyId ≠ base.lobby.find? lobbyId := by
    intro hsame
    rw [hafter, hlobby] at hsame
    have hrow : (advanceVersion lobby).rowVersion = lobby.rowVersion :=
      congrArg LobbyRow.rowVersion (Option.some.inj hsame)
    change lobby.rowVersion + 1 = lobby.rowVersion at hrow
    omega
  obtain ⟨hfirst, hwritten⟩ := h.lobby.written hchanged
  exact ⟨lobby, by rw [hfirst, hlobby], hversion, by rw [hwritten, hafter]⟩

theorem step_bumps {i : ι} {c : LobbyCommand} (h : SessionStep bcrypt S (.commit i c) S')
    (hexpects : c.expects = some (lobbyId, expected)) :
    Bumps lobbyId expected S.committed S'.committed := by
  cases h with
  | commit hrunning hdone hcommits =>
    exact hcommits.bumps ((commit_versions hdone).2 lobbyId expected hexpects)

/-- `COMMIT` reports an error: nothing of the command is there, or all of it. -/
theorem step_commitError {i : ι} {c : LobbyCommand} (h : SessionStep bcrypt S (.commitError i c) S') :
    S'.committed = S.committed ∨
      (∃ base after, S.running i = some (c, base) ∧ c.commit bcrypt base = .ok after ∧
        Commits base after S.committed S'.committed) ∧
      ∀ lobbyId expected, c.expects = some (lobbyId, expected) →
        Bumps lobbyId expected S.committed S'.committed := by
  cases h with
  | rejected hrunning hdone => exact .inl rfl
  | unacknowledged hrunning hdone hcommits =>
    exact .inr ⟨⟨_, _, hrunning, hdone, hcommits⟩, fun lobbyId expected hexpects =>
      hcommits.bumps ((commit_versions hdone).2 lobbyId expected hexpects)⟩

/-- The command changes the committed rows, whether or not its session hears of it. -/
def Changed (t : Transition (LobbySessions ι) (SessionLabel ι)) (c : LobbyCommand) : Prop :=
  ∃ i, t.label = .commit i c ∨ t.label = .commitError i c ∧ t.post.committed ≠ t.pre.committed

theorem Changed.bumps {t : Transition (LobbySessions ι) (SessionLabel ι)} {c : LobbyCommand}
    (h : Changed t c) (hstep : SessionStep bcrypt t.pre t.label t.post)
    (hexpects : c.expects = some (lobbyId, expected)) :
    Bumps lobbyId expected t.pre.committed t.post.committed := by
  rcases h with ⟨i, hlabel | ⟨hlabel, hchanged⟩⟩
  · rw [hlabel] at hstep
    exact step_bumps hstep hexpects
  · rw [hlabel] at hstep
    exact ((step_commitError hstep).resolve_left hchanged).2 lobbyId expected hexpects

omit [DecidableEq ι] in
theorem Bumps.spent {db db' later later' : Db} (hfirst : Bumps lobbyId expected db db')
    (hrows : RowsAdvance db' later) (hagain : Bumps lobbyId expected later later') : False := by
  obtain ⟨lobby, -, hversion, hafter⟩ := hfirst
  obtain ⟨lobby', hlobby', hversion', -⟩ := hagain
  obtain ⟨row, hrow, hle⟩ := hrows lobbyId _ hafter
  obtain rfl : lobby' = row := Option.some.inj (hlobby'.symm.trans hrow)
  have hnext : (advanceVersion lobby).rowVersion = lobby.rowVersion + 1 := rfl
  omega

end

end HiveChameleon.Nakama.Lobby
