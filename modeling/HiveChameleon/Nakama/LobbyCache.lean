import HiveChameleon.Nakama.LobbyMatch

/-!
# Nakama.LobbyCache — what a match knows of its lobby

A match caches the snapshot that it loaded last.  Whatever other writers do, a cached version that
is still the stored one means that the snapshot is still the stored one; and the stored rows keep
the constraints that a command needs to commit.
-/

namespace HiveChameleon.Nakama.Lobby

open Lib

/-! ### Rows that a command can write again -/

/-- Every lobby passes its checks and has a configuration. -/
structure Stored (db : Db) : Prop where
  checked : ∀ lobby ∈ db.lobby, lobbyChecks lobby = .ok ()
  configured : ∀ lobby ∈ db.lobby, ∃ c ∈ db.lobbyConfiguration, c.lobbyId = lobby.id

section Stored

variable {db db' : Db} {snapshot : LobbySnapshot}

theorem Stored.of_same (h : Stored db) (hlobby : db'.lobby = db.lobby)
    (hconfiguration : db'.lobbyConfiguration = db.lobbyConfiguration) : Stored db' := by
  refine ⟨fun lobby hmem => ?_, fun lobby hmem => ?_⟩
  · rw [hlobby] at hmem
    exact h.checked lobby hmem
  · rw [hlobby] at hmem
    rw [hconfiguration]
    exact h.configured lobby hmem

theorem Stored.updateLobby {lobbyId : String} {set : Table.Assignment LobbyRow.id} (h : Stored db)
    (hwrite : updateLobby lobbyId set db = .ok db') : Stored db' := by
  simp only [Lobby.updateLobby, bind_eq_ok, pure_eq_ok, Table.update_eq_ok] at hwrite
  obtain ⟨table, ⟨hchecks, rfl⟩, rfl⟩ := hwrite
  refine ⟨fun lobby hmem => ?_, fun lobby hmem => ?_⟩
  · rcases Table.mem_modify_cases hmem with ⟨old, hold, hid, rfl⟩ | ⟨hold, -⟩
    · exact hchecks old hold hid
    · exact h.checked lobby hold
  · obtain ⟨old, hold, rfl⟩ := Table.mem_modify.mp hmem
    obtain ⟨c, hc, hid⟩ := h.configured old hold
    have hkey : (Table.updated (fun row => row.id = lobbyId) set old).id = old.id :=
      Table.updated_eq set.keeps old
    exact ⟨c, hc, hid.trans hkey.symm⟩

theorem Stored.updateMembers {lobbyId : String} {p : LobbyMembershipRow → Prop} [DecidablePred p]
    {set : Table.Assignment LobbyMembershipRow.id} (h : Stored db)
    (hwrite : updateMembers lobbyId p set db = .ok db') : Stored db' := by
  simp only [Lobby.updateMembers, bind_eq_ok, pure_eq_ok] at hwrite
  obtain ⟨table, -, rfl⟩ := hwrite
  exact h.of_same rfl rfl

theorem Stored.insertMembership {row : LobbyMembershipRow} (h : Stored db)
    (hwrite : insertMembership row db = .ok db') : Stored db' := by
  simp only [Lobby.insertMembership, bind_eq_ok, exists_unit, pure_eq_ok] at hwrite
  obtain ⟨-, -, -, table, -, rfl⟩ := hwrite
  exact h.of_same rfl rfl

theorem Stored.insertHostAssignment {row : LobbyHostAssignmentRow} (h : Stored db)
    (hwrite : insertHostAssignment row db = .ok db') : Stored db' := by
  simp only [Lobby.insertHostAssignment, bind_eq_ok, exists_unit, pure_eq_ok] at hwrite
  obtain ⟨-, -, -, table, -, rfl⟩ := hwrite
  exact h.of_same rfl rfl

theorem Stored.insertRound {row : GameRoundRow} (h : Stored db)
    (hwrite : insertRound row db = .ok db') : Stored db' := by
  simp only [Lobby.insertRound, bind_eq_ok, exists_unit, pure_eq_ok] at hwrite
  obtain ⟨-, -, -, table, -, rfl⟩ := hwrite
  exact h.of_same rfl rfl

theorem Stored.endHostAssignment {lobbyId : String} {now : Time} (h : Stored db)
    (hwrite : endHostAssignment lobbyId now db = .ok db') : Stored db' := by
  simp only [Lobby.endHostAssignment, bind_eq_ok, pure_eq_ok] at hwrite
  obtain ⟨table, -, rfl⟩ := hwrite
  exact h.of_same rfl rfl

theorem Stored.abortRounds {lobbyId : String} {now : Time} (h : Stored db)
    (hwrite : abortRounds lobbyId now db = .ok db') : Stored db' := by
  simp only [Lobby.abortRounds, bind_eq_ok, pure_eq_ok] at hwrite
  obtain ⟨table, -, rfl⟩ := hwrite
  exact h.of_same rfl rfl

theorem Stored.updateLobbyConfiguration {lobbyId : String} {next : LobbyConfiguration} {now : Time}
    (h : Stored db) (hwrite : updateLobbyConfiguration lobbyId next now db = .ok db') : Stored db' := by
  simp only [Lobby.updateLobbyConfiguration, bind_eq_ok, exists_unit, pure_eq_ok,
    Table.update_eq_ok] at hwrite
  obtain ⟨-, table, ⟨-, rfl⟩, rfl⟩ := hwrite
  refine ⟨h.checked, fun lobby hmem => ?_⟩
  obtain ⟨c, hc, hid⟩ := h.configured lobby hmem
  exact ⟨_, Table.updated_mem_modify hc,
    (Table.updated_eq (g := LobbyConfigurationRow.lobbyId) (fun _ => rfl) c).trans hid⟩

/-- A new lobby comes with its configuration. -/
theorem Stored.create {draw : CreateDraw} {now : Time} {playerId : String}
    {request : CreateLobbyRequest} {passwordHash : String} (h : Stored db)
    (hwrite : create draw now playerId request passwordHash db = .ok (snapshot, db')) : Stored db' := by
  unfold Lobby.create at hwrite
  cases hcurrent : openMembership playerId db with
  | some existing =>
    rw [hcurrent] at hwrite
    simp only [bind_eq_ok, pure_eq_ok, Prod.mk.injEq] at hwrite
    obtain ⟨_, -, -, rfl⟩ := hwrite
    exact h
  | none =>
    rw [hcurrent] at hwrite
    simp only [bind_eq_ok, exists_unit, pure_eq_ok, Prod.mk.injEq] at hwrite
    obtain ⟨-, db₁, h₁, db₂, h₂, db₃, h₃, db₄, h₄, _, -, db₅, h₅, -, rfl⟩ := hwrite
    obtain ⟨rfl, -⟩ := commitLobby_spec h₅
    simp only [Lobby.insertLobby, bind_eq_ok, exists_unit, pure_eq_ok] at h₁
    obtain ⟨hchecks, lobbies, hlobbies, rfl⟩ := h₁
    simp only [Lobby.insertMembership, bind_eq_ok, exists_unit, pure_eq_ok] at h₂
    obtain ⟨-, -, -, members, -, rfl⟩ := h₂
    simp only [Lobby.insertHostAssignment, bind_eq_ok, exists_unit, pure_eq_ok] at h₃
    obtain ⟨-, -, -, hosts, -, rfl⟩ := h₃
    simp only [Lobby.insertConfiguration, bind_eq_ok, exists_unit, pure_eq_ok] at h₄
    obtain ⟨-, -, configurations, hconfigurations, rfl⟩ := h₄
    refine ⟨fun lobby hmem => ?_, fun lobby hmem => ?_⟩
    · rcases (Table.mem_insert hlobbies).mp hmem with hold | rfl
      · exact h.checked lobby hold
      · exact hchecks
    · rcases (Table.mem_insert hlobbies).mp hmem with hold | rfl
      · obtain ⟨c, hc, hid⟩ := h.configured lobby hold
        exact ⟨c, (Table.mem_insert hconfigurations).mpr (.inl hc), hid⟩
      · exact ⟨_, (Table.mem_insert hconfigurations).mpr (.inr rfl), rfl⟩

theorem Stored.join {bcrypt : PasswordCheck} {membershipId : String} {transactionTime : Time}
    {playerId : String} {request : JoinLobbyRequest} (h : Stored db)
    (hwrite : join bcrypt membershipId transactionTime playerId request db = .ok (snapshot, db')) :
    Stored db' := by
  unfold Lobby.join at hwrite
  cases hfind : db.lobby.find? request.lobbyId with
  | none =>
    rw [hfind] at hwrite
    cases hwrite
  | some lobby =>
    rw [hfind] at hwrite
    simp only [bind_eq_ok, exists_unit] at hwrite
    obtain ⟨-, -, hwrite⟩ := hwrite
    cases hcurrent : openMembership playerId db with
    | some current =>
      rw [hcurrent] at hwrite
      simp only [bind_eq_ok, exists_unit, pure_eq_ok, Prod.mk.injEq] at hwrite
      obtain ⟨-, _, -, -, rfl⟩ := hwrite
      exact h
    | none =>
      rw [hcurrent] at hwrite
      simp only [bind_eq_ok, exists_unit, pure_eq_ok, Prod.mk.injEq] at hwrite
      obtain ⟨-, -, db₁, h₁, db₂, h₂, _, -, db₃, h₃, -, rfl⟩ := hwrite
      obtain ⟨rfl, -⟩ := commitLobby_spec h₃
      exact (h.insertMembership h₁).updateLobby h₂

theorem Stored.replaceHost {assignmentId lobbyId : String} {now : Time}
    {hostReason : HostAssignmentReason} {closed : Bool} (h : Stored db)
    (hwrite : replaceHost assignmentId now lobbyId hostReason db = .ok (closed, db')) : Stored db' := by
  simp only [Lobby.replaceHost, bind_eq_ok, exists_unit] at hwrite
  obtain ⟨-, db₁, h₁, hwrite⟩ := hwrite
  cases hmembers : openMembers lobbyId db₁ with
  | nil =>
    rw [hmembers] at hwrite
    simp only [bind_eq_ok, pure_eq_ok, Prod.mk.injEq] at hwrite
    obtain ⟨db₂, h₂, db₃, h₃, -, rfl⟩ := hwrite
    exact ((h.endHostAssignment h₁).updateLobby h₂).abortRounds h₃
  | cons replacement rest =>
    rw [hmembers] at hwrite
    simp only [bind_eq_ok, pure_eq_ok, Prod.mk.injEq] at hwrite
    obtain ⟨db₂, h₂, db₃, h₃, -, rfl⟩ := hwrite
    exact ((h.endHostAssignment h₁).insertHostAssignment h₂).updateLobby h₃

end Stored

/-! ### A committed command -/

section Commit

variable {bcrypt : PasswordCheck} {db db' : Db} {snapshot : LobbySnapshot}

/-- The writes of `Leave`, and the snapshot that it answers with. -/
theorem leave_spec {assignmentId lobbyId : String} {now : Time} {playerIds : List String}
    {hostReason : HostAssignmentReason} {closed : Bool}
    (h : leave assignmentId now lobbyId playerIds hostReason db = .ok (snapshot, closed, db')) :
    loadLobbySnapshot lobbyId db' = .ok snapshot ∧ (Stored db → Stored db') := by
  unfold leave at h
  cases hfind : db.lobby.find? lobbyId with
  | none =>
    rw [hfind] at h
    cases h
  | some lobby =>
    simp only [hfind] at h
    by_cases hclosed : lobby.closedAt ≠ none
    · rw [if_pos hclosed] at h
      simp only [bind_eq_ok, pure_eq_ok, Prod.mk.injEq] at h
      obtain ⟨_, hload, rfl, -, rfl⟩ := h
      exact ⟨hload, fun hs => hs⟩
    rw [if_neg hclosed] at h
    by_cases hnone : departing lobbyId playerIds db = []
    · rw [if_pos hnone] at h
      simp only [bind_eq_ok, pure_eq_ok, Prod.mk.injEq] at h
      obtain ⟨_, hload, rfl, -, rfl⟩ := h
      exact ⟨hload, fun hs => hs⟩
    rw [if_neg hnone] at h
    simp only [bind_eq_ok, pure_eq_ok, Prod.mk.injEq] at h
    obtain ⟨db₁, h₁, ⟨closed', db₂⟩, h₂, _, hload, db₃, h₃, rfl, -, rfl⟩ := h
    obtain ⟨rfl, -⟩ := commitLobby_spec h₃
    refine ⟨hload, fun hs => ?_⟩
    by_cases hhost : lobby.currentHostPlayerId ∈ departing lobbyId playerIds db
    · rw [if_pos hhost] at h₂
      exact (hs.updateMembers h₁).replaceHost h₂
    · rw [if_neg hhost] at h₂
      simp only [bind_eq_ok, pure_eq_ok, Prod.mk.injEq] at h₂
      obtain ⟨db₄, h₄, -, rfl⟩ := h₂
      exact (hs.updateMembers h₁).updateLobby h₄

theorem updateConfiguration_spec {now : Time} {playerId : String}
    {request : UpdateLobbyConfigurationRequest}
    (h : updateConfiguration now playerId request db = .ok (snapshot, db')) :
    loadLobbySnapshot request.lobbyId db' = .ok snapshot ∧ (Stored db → Stored db') := by
  simp only [updateConfiguration, bind_eq_ok, exists_unit, pure_eq_ok, Prod.mk.injEq] at h
  obtain ⟨_, -, -, _, -, db₁, h₁, db₂, h₂, _, hload, db₃, h₃, rfl, rfl⟩ := h
  obtain ⟨rfl, -⟩ := commitLobby_spec h₃
  exact ⟨hload, fun hs => (hs.updateLobbyConfiguration h₁).updateLobby h₂⟩

theorem recordNominationChange_spec {playerId : String} {request : NominateHunterRequest}
    (h : recordNominationChange playerId request db = .ok (snapshot, db')) :
    loadLobbySnapshot request.lobbyId db' = .ok snapshot ∧ (Stored db → Stored db') := by
  unfold recordNominationChange at h
  cases hfind : db.lobby.find? request.lobbyId with
  | none =>
    rw [hfind] at h
    cases h
  | some lobby =>
    rw [hfind] at h
    simp only [bind_eq_ok, exists_unit, pure_eq_ok, Prod.mk.injEq] at h
    obtain ⟨-, -, -, db₁, h₁, -, db₂, h₂, _, hload, db₃, h₃, rfl, rfl⟩ := h
    obtain ⟨rfl, -⟩ := commitLobby_spec h₃
    exact ⟨hload, fun hs => (hs.updateMembers h₁).updateLobby h₂⟩

theorem startRound_spec {roundId : String} {startedAt : Time} {random : Random} {playerId : String}
    {request : StartLobbyRequest} {round : RoundSnapshot}
    (h : startRound roundId startedAt random playerId request db = .ok (snapshot, round, db')) :
    loadLobbySnapshot request.lobbyId db' = .ok snapshot ∧ (Stored db → Stored db') := by
  simp only [startRound, bind_eq_ok, pure_eq_ok, Prod.mk.injEq] at h
  obtain ⟨_, -, _, -, db₁, h₁, db₂, h₂, db₃, h₃, _, hload, db₄, h₄, rfl, -, rfl⟩ := h
  obtain ⟨rfl, -⟩ := commitLobby_spec h₄
  exact ⟨hload, fun hs => ((hs.insertRound h₁).updateLobby h₂).updateMembers h₃⟩

theorem commit_stored {c : LobbyCommand} (h : c.commit bcrypt db = .ok db') (hs : Stored db) :
    Stored db' := by
  cases c with
  | create draw now playerId request passwordHash =>
    simp only [LobbyCommand.commit, bind_eq_ok, pure_eq_ok] at h
    obtain ⟨⟨_, _⟩, hdone, rfl⟩ := h
    exact hs.create hdone
  | join membershipId transactionTime playerId request =>
    simp only [LobbyCommand.commit, bind_eq_ok, pure_eq_ok] at h
    obtain ⟨⟨_, _⟩, hdone, rfl⟩ := h
    exact hs.join hdone
  | leave assignmentId now lobbyId playerIds hostReason =>
    simp only [LobbyCommand.commit, bind_eq_ok, pure_eq_ok] at h
    obtain ⟨⟨_, _, _⟩, hdone, rfl⟩ := h
    exact (leave_spec hdone).2 hs
  | updateConfiguration now playerId request =>
    simp only [LobbyCommand.commit, bind_eq_ok, pure_eq_ok] at h
    obtain ⟨⟨_, _⟩, hdone, rfl⟩ := h
    exact (updateConfiguration_spec hdone).2 hs
  | recordNominationChange playerId request =>
    simp only [LobbyCommand.commit, bind_eq_ok, pure_eq_ok] at h
    obtain ⟨⟨_, _⟩, hdone, rfl⟩ := h
    exact (recordNominationChange_spec hdone).2 hs
  | startRound roundId startedAt random playerId request =>
    simp only [LobbyCommand.commit, bind_eq_ok, pure_eq_ok] at h
    obtain ⟨⟨_, _, _⟩, hdone, rfl⟩ := h
    exact (startRound_spec hdone).2 hs

end Commit

/-! ### The cache -/

/-- The snapshot of the match is the stored one, its nominees in the order of their ids. -/
def LobbyMatch.Current (m : LobbyMatch) (db : Db) : Prop :=
  ∃ snapshot, loadLobbySnapshot m.lobbyId db = .ok snapshot ∧
    m.snapshot = { snapshot with hunterNomineeIds := snapshot.live.insertionSort (· ≤ ·) } ∧
    m.nominations = snapshot.live

/-- **What a match knows**: the stored version is not behind the cached one, and where they agree
the cached snapshot is the stored one. -/
def LobbyMatch.Cached (m : LobbyMatch) (db : Db) : Prop :=
  ∃ lobby, db.lobby.find? m.lobbyId = some lobby ∧ m.snapshot.rowVersion ≤ lobby.rowVersion ∧
    (lobby.rowVersion = m.snapshot.rowVersion → m.Current db)

/-- What a snapshot of a lobby reads stays as it is, or the version of the lobby increases. -/
def Evolves (lobbyId : String) (db db' : Db) : Prop :=
  db'.lobby.find? lobbyId = db.lobby.find? lobbyId ∧
      loadLobbySnapshot lobbyId db' = loadLobbySnapshot lobbyId db ∨
    ∀ lobby, db.lobby.find? lobbyId = some lobby →
      ∃ lobby', db'.lobby.find? lobbyId = some lobby' ∧ lobby.rowVersion < lobby'.rowVersion

section Cache

variable {bcrypt : PasswordCheck} {db db' : Db} {lobbyId : String} {snapshot : LobbySnapshot}
  {m m' : LobbyMatch}

theorem loadLobbySnapshot_eq_ok :
    loadLobbySnapshot lobbyId db = .ok snapshot ↔
      ∃ lobby configuration, db.lobby.find? lobbyId = some lobby ∧
        db.lobbyConfiguration.find? lobbyId = some configuration ∧
        snapshot = {
          id := lobby.id
          name := lobby.name
          visibility := lobby.visibility
          maxPlayers := lobby.maxPlayers
          regionCode := lobby.regionCode
          currentHostPlayerId := lobby.currentHostPlayerId
          rowVersion := lobby.rowVersion
          closed := lobby.closedAt.isSome
          members := (openMembers lobbyId db).map fun m => ⟨m.playerId, m.joinedAt⟩
          hunterNomineeIds :=
            ((openMembers lobbyId db).filter (·.hunterNominated)).map (·.playerId)
          configuration := configuration.configuration } := by
  unfold loadLobbySnapshot
  cases hlobby : db.lobby.find? lobbyId with
  | none => simp
  | some lobby =>
    cases hconfiguration : db.lobbyConfiguration.find? lobbyId with
    | none => simp
    | some configuration => simp [eq_comm]

/-- A snapshot reads the rows of its lobby, but not its rounds. -/
theorem loadLobbySnapshot_congr (hlobby : (view lobbyId db').lobby = (view lobbyId db).lobby)
    (hmemberships : (view lobbyId db').memberships = (view lobbyId db).memberships)
    (hconfiguration : (view lobbyId db').configuration = (view lobbyId db).configuration) :
    loadLobbySnapshot lobbyId db' = loadLobbySnapshot lobbyId db := by
  have hmembers : openMembers lobbyId db' = openMembers lobbyId db := by
    rw [openMembers_eq, openMembers_eq, LobbyView.openMembers, LobbyView.openMembers, hmemberships]
  have hlobby : db'.lobby.find? lobbyId = db.lobby.find? lobbyId := hlobby
  have hconfiguration : db'.lobbyConfiguration.find? lobbyId = db.lobbyConfiguration.find? lobbyId :=
    hconfiguration
  unfold loadLobbySnapshot
  rw [hlobby, hconfiguration, hmembers]

theorem Evolves.refl (db : Db) : Evolves lobbyId db db := .inl ⟨rfl, rfl⟩

/-- A committed command increases the version of every lobby that it changes. -/
theorem Evolves.of_command {c : LobbyCommand} (hc : Consistent db)
    (h : perform bcrypt db (.command c) = some db') : Evolves lobbyId db db' := by
  by_cases hview : view lobbyId db' = view lobbyId db
  · refine .inl ⟨congrArg LobbyView.lobby hview, ?_⟩
    exact loadLobbySnapshot_congr (congrArg LobbyView.lobby hview)
      (congrArg LobbyView.memberships hview) (congrArg LobbyView.configuration hview)
  · refine .inr fun lobby hlobby => ?_
    obtain ⟨lobby', hlobby', hlt⟩ := (commit_keeps hc h).advances lobbyId hview lobby hlobby
    exact ⟨lobby', hlobby', hlt⟩

theorem Evolves.of_event {event : LobbyEvent} (hc : Consistent db)
    (h : LobbyStep bcrypt db event db') : Evolves lobbyId db db' := by
  cases event with
  | command c => exact .of_command hc h
  | roundUpdate update =>
    obtain rfl := Option.some.inj h
    exact .inl ⟨rfl, loadLobbySnapshot_congr rfl rfl rfl⟩
  | mapVersions versions =>
    obtain rfl := Option.some.inj h
    exact .inl ⟨rfl, loadLobbySnapshot_congr rfl rfl rfl⟩

/-- What a match knows outlives what other writers do. -/
theorem LobbyMatch.Cached.evolves (h : m.Cached db) (hdb : Evolves m.lobbyId db db') :
    m.Cached db' := by
  obtain ⟨lobby, hlobby, hle, hcurrent⟩ := h
  rcases hdb with ⟨hsame, hload⟩ | hmore
  · refine ⟨lobby, hsame.trans hlobby, hle, fun hversion => ?_⟩
    obtain ⟨snapshot, hsnapshot, hrest⟩ := hcurrent hversion
    exact ⟨snapshot, hload.trans hsnapshot, hrest⟩
  · obtain ⟨lobby', hlobby', hlt⟩ := hmore lobby hlobby
    exact ⟨lobby', hlobby', by omega, fun hversion => by omega⟩

/-- A match that keeps its lobby and its cache knows the same. -/
theorem LobbyMatch.Cached.congr (h : m.Cached db) (hid : m'.lobbyId = m.lobbyId)
    (hsnapshot : m'.snapshot = m.snapshot) (hnominations : m'.nominations = m.nominations) :
    m'.Cached db := by
  obtain ⟨lobby, hlobby, hle, hcurrent⟩ := h
  refine ⟨lobby, hid ▸ hlobby, hsnapshot ▸ hle, fun hversion => ?_⟩
  obtain ⟨snapshot, hload, hsame, hlive⟩ := hcurrent (hsnapshot ▸ hversion)
  exact ⟨snapshot, hid ▸ hload, hsnapshot.trans hsame, hnominations.trans hlive⟩

/-- A match that has just loaded its snapshot knows what is stored. -/
theorem LobbyMatch.Cached.of_load (hload : loadLobbySnapshot m.lobbyId db = .ok snapshot)
    (hsnapshot : m.snapshot =
      { snapshot with hunterNomineeIds := snapshot.live.insertionSort (· ≤ ·) })
    (hnominations : m.nominations = snapshot.live) : m.Cached db := by
  obtain ⟨lobby, configuration, hlobby, -, hsame⟩ := loadLobbySnapshot_eq_ok.mp hload
  have hversion : m.snapshot.rowVersion = lobby.rowVersion := by
    rw [hsnapshot, hsame]
  exact ⟨lobby, hlobby, hversion.le, fun _ => ⟨snapshot, hload, hsnapshot, hnominations⟩⟩

end Cache

/-! ### What a call of the match does -/

/-- A call commits nothing or one command. -/
def Writes (bcrypt : PasswordCheck) (db db' : Db) : Prop :=
  db' = db ∨ ∃ c, perform bcrypt db (.command c) = some db'

/-- The match after a call: with the cache that it had, or with the snapshot that is stored now. -/
def Refreshed (m : LobbyMatch) (db' : Db) (m' : LobbyMatch) : Prop :=
  m'.lobbyId = m.lobbyId ∧
    (m'.snapshot = m.snapshot ∧ m'.nominations = m.nominations ∨ m'.Cached db')

/-- **What every call of the match handler does.** -/
structure Handles (bcrypt : PasswordCheck) (m : LobbyMatch) (db : Db) (m' : Option LobbyMatch)
    (db' : Db) : Prop where
  writes : Writes bcrypt db db'
  refreshed : ∀ next ∈ m', Refreshed m db' next

section Calls

variable {bcrypt : PasswordCheck} {db db' : Db} {snapshot : LobbySnapshot} {m m' next : LobbyMatch}

theorem Writes.of_commit {c : LobbyCommand} (h : c.commit bcrypt db = .ok db') :
    Writes bcrypt db db' := by
  refine .inr ⟨c, ?_⟩
  show (c.commit bcrypt db).toOption = some db'
  rw [h]
  rfl

theorem Refreshed.refl (m : LobbyMatch) (db : Db) : Refreshed m db m := ⟨rfl, .inl ⟨rfl, rfl⟩⟩

theorem Handles.refuse (m : LobbyMatch) (hwrites : Writes bcrypt db db') :
    Handles bcrypt m db (some m) db' := by
  refine ⟨hwrites, fun next hnext => ?_⟩
  obtain rfl := Option.some.inj hnext
  exact .refl m db'

/-- A committed command whose snapshot becomes the one of the match. -/
theorem Handles.applyLive (hwrites : Writes bcrypt db db') (hid : m'.lobbyId = m.lobbyId)
    (hload : loadLobbySnapshot m.lobbyId db' = .ok snapshot) :
    Handles bcrypt m db (some (m'.applyLiveLobbyState snapshot)) db' := by
  refine ⟨hwrites, fun next hnext => ?_⟩
  obtain rfl := Option.some.inj hnext
  exact ⟨hid, .inr (.of_load (hid ▸ hload) rfl rfl)⟩

/-- A match that ends, or that goes on with the cache that it has. -/
theorem Handles.ends (h : Handles bcrypt m db (some m') db') (closed : Bool) (hid : next.lobbyId = m'.lobbyId)
    (hsnapshot : next.snapshot = m'.snapshot) (hnominations : next.nominations = m'.nominations) :
    Handles bcrypt m db (if closed = true then none else some next) db' := by
  refine ⟨h.writes, fun last hlast => ?_⟩
  by_cases hclosed : closed = true
  · rw [if_pos hclosed] at hlast
    cases hlast
  · rw [if_neg hclosed] at hlast
    obtain rfl := Option.some.inj hlast
    obtain ⟨hid', hcache⟩ := h.refreshed m' rfl
    refine ⟨hid.trans hid', ?_⟩
    rcases hcache with ⟨hsame, hlive⟩ | hcached
    · exact .inl ⟨hsnapshot.trans hsame, hnominations.trans hlive⟩
    · exact .inr (hcached.congr hid hsnapshot hnominations)

variable (draws : Draws)

theorem signalSync_handles (m : LobbyMatch) (db : Db) :
    Handles bcrypt m db (m.signalSync db).lobbyMatch (m.signalSync db).db := by
  unfold LobbyMatch.signalSync
  cases hload : loadLobbySnapshot m.lobbyId db with
  | error e => exact .refuse m (.inl rfl)
  | ok snapshot => exact .applyLive (.inl rfl) rfl hload

theorem signalLeave_handles (m : LobbyMatch) (db : Db) (playerId : String)
    (leaveReason : HostAssignmentReason) :
    Handles bcrypt m db (m.signalLeave draws db playerId leaveReason).lobbyMatch
      (m.signalLeave draws db playerId leaveReason).db := by
  unfold LobbyMatch.signalLeave
  by_cases hplayer : playerId = ""
  · rw [if_pos hplayer]
    exact .refuse m (.inl rfl)
  rw [if_neg hplayer]
  dsimp only
  generalize (if leaveReason = .hostDisconnected then HostAssignmentReason.hostDisconnected
    else .hostLeft) = reason
  cases hleave : leave draws.assignmentId draws.now m.lobbyId [playerId] reason db with
  | error e => exact .refuse m (.inl rfl)
  | ok left =>
    obtain ⟨snapshot, closed, db'⟩ := left
    refine .applyLive (.of_commit (c := .leave draws.assignmentId draws.now m.lobbyId [playerId] reason)
      ?_) rfl (leave_spec hleave).1
    exact bind_eq_ok.mpr ⟨_, hleave, rfl⟩

theorem signalNominateHunter_handles (m : LobbyMatch) (db : Db) (playerId : String)
    (nomination : Option NominateHunterRequest) :
    Handles bcrypt m db (m.signalNominateHunter db playerId nomination).lobbyMatch
      (m.signalNominateHunter db playerId nomination).db := by
  unfold LobbyMatch.signalNominateHunter
  cases nomination with
  | none => exact .refuse m (.inl rfl)
  | some request =>
    dsimp only
    by_cases hid : request.lobbyId ≠ m.lobbyId
    · rw [if_pos hid]
      exact .refuse m (.inl rfl)
    rw [if_neg hid]
    by_cases hround : m.round.isSome = true
    · rw [if_pos hround]
      exact .refuse m (.inl rfl)
    rw [if_neg hround]
    by_cases hfast : decide (playerId ∈ m.nominations) = request.nominated
    · rw [if_pos hfast]
      by_cases hversion : request.expectedLobbyVersion ≠ m.snapshot.rowVersion
      · rw [if_pos hversion]
        exact .refuse m (.inl rfl)
      · rw [if_neg hversion]
        exact .refuse m (.inl rfl)
    rw [if_neg hfast]
    cases hrecord : recordNominationChange playerId request db with
    | error e => exact .refuse m (.inl rfl)
    | ok recorded =>
      obtain ⟨snapshot, db'⟩ := recorded
      have hload := (recordNominationChange_spec hrecord).1
      rw [not_not.mp hid] at hload
      refine .applyLive (.of_commit (c := .recordNominationChange playerId request) ?_) rfl hload
      exact bind_eq_ok.mpr ⟨_, hrecord, rfl⟩

theorem signalUpdateConfiguration_handles (m : LobbyMatch) (db : Db) (playerId : String)
    (request : Option UpdateLobbyConfigurationRequest) :
    Handles bcrypt m db (m.signalUpdateConfiguration draws db playerId request).lobbyMatch
      (m.signalUpdateConfiguration draws db playerId request).db := by
  unfold LobbyMatch.signalUpdateConfiguration
  cases request with
  | none => exact .refuse m (.inl rfl)
  | some request =>
    dsimp only
    by_cases hid : request.lobbyId ≠ m.lobbyId
    · rw [if_pos hid]
      exact .refuse m (.inl rfl)
    rw [if_neg hid]
    cases hupdate : updateConfiguration draws.now playerId request db with
    | error e => exact .refuse m (.inl rfl)
    | ok updated =>
      obtain ⟨snapshot, db'⟩ := updated
      have hload := (updateConfiguration_spec hupdate).1
      rw [not_not.mp hid] at hload
      refine .applyLive (.of_commit (c := .updateConfiguration draws.now playerId request) ?_) rfl hload
      exact bind_eq_ok.mpr ⟨_, hupdate, rfl⟩

theorem signalStart_handles (m : LobbyMatch) (db : Db) (playerId : String)
    (request : Option StartLobbyRequest) :
    Handles bcrypt m db (m.signalStart draws db playerId request).lobbyMatch
      (m.signalStart draws db playerId request).db := by
  unfold LobbyMatch.signalStart
  cases request with
  | none => exact .refuse m (.inl rfl)
  | some request =>
    dsimp only
    by_cases hid : request.lobbyId ≠ m.lobbyId
    · rw [if_pos hid]
      exact .refuse m (.inl rfl)
    rw [if_neg hid]
    by_cases hround : m.round.isSome = true
    · rw [if_pos hround]
      exact .refuse m (.inl rfl)
    rw [if_neg hround]
    by_cases hmode : m.snapshot.configuration.mode ≠ .casual
    · rw [if_pos hmode]
      exact .refuse m (.inl rfl)
    rw [if_neg hmode]
    cases hstart : startRound draws.roundId.1 draws.now draws.random playerId request db with
    | error e => exact .refuse m (.inl rfl)
    | ok started =>
      obtain ⟨snapshot, round, db'⟩ := started
      have hload := (startRound_spec hstart).1
      rw [not_not.mp hid] at hload
      have hwrites : Writes bcrypt db db' := by
        refine .of_commit
          (c := .startRound draws.roundId.1 draws.now draws.random playerId request) ?_
        exact bind_eq_ok.mpr ⟨_, hstart, rfl⟩
      dsimp only
      cases hstate : newCasualRoundState round with
      | error e => exact .refuse m hwrites
      | ok casualRound => exact .applyLive hwrites rfl hload

/-- **Every signal** commits nothing or one command, and refreshes the cache or leaves it. -/
theorem matchSignal_handles (m : LobbyMatch) (db : Db) (signal : LobbySignal) :
    Handles bcrypt m db (m.matchSignal draws db signal).lobbyMatch
      (m.matchSignal draws db signal).db := by
  cases signal with
  | terminateDuplicate => exact ⟨.inl rfl, fun _ hnext => by cases hnext⟩
  | sync => exact signalSync_handles m db
  | leave playerId leaveReason => exact signalLeave_handles draws m db playerId leaveReason
  | nominateHunter playerId nomination => exact signalNominateHunter_handles m db playerId nomination
  | updateConfiguration playerId request =>
    exact signalUpdateConfiguration_handles draws m db playerId request
  | start playerId request => exact signalStart_handles draws m db playerId request
  | other type => exact .refuse m (.inl rfl)

theorem flushPendingLeaves_handles {closed : Bool}
    (h : m.flushPendingLeaves draws db = .ok (closed, m', db')) :
    Handles bcrypt m db (some m') db' := by
  unfold LobbyMatch.flushPendingLeaves at h
  by_cases hnone : m.pendingLeaves.keys = []
  · rw [if_pos hnone] at h
    cases h
    exact .refuse m (.inl rfl)
  · rw [if_neg hnone] at h
    simp only [bind_eq_ok, pure_eq_ok, Prod.mk.injEq] at h
    obtain ⟨⟨snapshot, closed', db₁⟩, hleave, -, rfl, rfl⟩ := h
    refine .applyLive (.of_commit (c := .leave draws.assignmentId draws.now m.lobbyId
      m.pendingLeaves.keys m.hostReason) ?_) rfl (leave_spec hleave).1
    exact bind_eq_ok.mpr ⟨_, hleave, rfl⟩

theorem matchLeave_handles (m : LobbyMatch) (db : Db)
    (departed : List (String × HostAssignmentReason)) :
    Handles bcrypt m db (m.matchLeave draws db departed).1 (m.matchLeave draws db departed).2 := by
  unfold LobbyMatch.matchLeave
  cases hflush : (m.noteLeaves departed).flushPendingLeaves draws db with
  | error e =>
    refine ⟨.inl rfl, fun next hnext => ?_⟩
    obtain rfl := Option.some.inj hnext
    exact ⟨rfl, .inl ⟨rfl, rfl⟩⟩
  | ok flushed =>
    obtain ⟨closed, m', db'⟩ := flushed
    have hnoted : Handles bcrypt (m.noteLeaves departed) db (some m') db' :=
      flushPendingLeaves_handles draws hflush
    have hflushed : Handles bcrypt m db (some m') db' := ⟨hnoted.writes, hnoted.refreshed⟩
    exact hflushed.ends closed rfl rfl rfl

theorem runRound_cache (m : LobbyMatch) (presences : List LobbyPresence) (messages : List MatchData) :
    (m.runRound draws presences messages).lobbyId = m.lobbyId ∧
      (m.runRound draws presences messages).snapshot = m.snapshot ∧
      (m.runRound draws presences messages).nominations = m.nominations := by
  unfold LobbyMatch.runRound
  cases m.round with
  | none => exact ⟨rfl, rfl, rfl⟩
  | some round =>
    cases m.casualRound with
    | none => exact ⟨rfl, rfl, rfl⟩
    | some casualRound => exact ⟨rfl, rfl, rfl⟩

theorem matchLoop_handles (m : LobbyMatch) (db : Db) (presences : List LobbyPresence)
    (messages : List MatchData) :
    Handles bcrypt m db (m.matchLoop draws db presences messages).1
      (m.matchLoop draws db presences messages).2 := by
  unfold LobbyMatch.matchLoop
  by_cases hclosed : m.snapshot.closed = true
  · rw [if_pos hclosed]
    exact ⟨.inl rfl, fun _ hnext => by cases hnext⟩
  rw [if_neg hclosed]
  cases hflush : m.flushPendingLeaves draws db with
  | error e => exact .refuse m (.inl rfl)
  | ok flushed =>
    obtain ⟨closed, m', db'⟩ := flushed
    have hflushed : Handles bcrypt m db (some m') db' := flushPendingLeaves_handles draws hflush
    obtain ⟨hid, hsnapshot, hnominations⟩ := runRound_cache draws m' presences messages
    exact hflushed.ends closed hid hsnapshot hnominations

end Calls

/-! ### Runs -/

/-- **What holds of a match and the tables in every reachable state.** -/
structure SystemInvariant (S : LobbySystem) : Prop where
  consistent : Consistent S.db
  stored : Stored S.db
  cached : ∀ m ∈ S.lobbyMatch, m.Cached S.db

section Runs

variable {bcrypt : PasswordCheck} {S S' : LobbySystem} {m : LobbyMatch} {m' : Option LobbyMatch}
  {db db' : Db}

theorem event_stored {event : LobbyEvent} (h : LobbyStep bcrypt db event db') (hs : Stored db) :
    Stored db' := by
  cases event with
  | command c => exact commit_stored (toOption_eq_some.mp h) hs
  | roundUpdate update =>
    obtain rfl := Option.some.inj h
    exact hs.of_same rfl rfl
  | mapVersions versions =>
    obtain rfl := Option.some.inj h
    exact hs.of_same rfl rfl

/-- A call of the match keeps the invariant. -/
theorem SystemInvariant.handles (h : SystemInvariant S) (hm : S.lobbyMatch = some m)
    (hcall : Handles bcrypt m S.db m' db') : SystemInvariant ⟨db', m'⟩ := by
  have hold : m.Cached S.db := h.cached m hm
  have hdb : Consistent db' ∧ Stored db' ∧ Evolves m.lobbyId S.db db' := by
    rcases hcall.writes with rfl | ⟨c, hc⟩
    · exact ⟨h.consistent, h.stored, .refl _⟩
    · exact ⟨(commit_keeps h.consistent hc).consistent h.consistent,
        commit_stored (toOption_eq_some.mp hc) h.stored, .of_command h.consistent hc⟩
  refine ⟨hdb.1, hdb.2.1, fun next hnext => ?_⟩
  obtain ⟨hid, hcache⟩ := hcall.refreshed next hnext
  rcases hcache with ⟨hsnapshot, hnominations⟩ | hcached
  · exact (hold.evolves hdb.2.2).congr hid hsnapshot hnominations
  · exact hcached

theorem matchInit_cached {lobbyId : String} {round : Option MatchRound}
    (h : matchInit lobbyId round db = some m) : m.lobbyId = lobbyId ∧ m.Cached db := by
  unfold matchInit at h
  cases hload : loadLobbySnapshot lobbyId db with
  | error e =>
    rw [hload] at h
    cases h
  | ok snapshot =>
    rw [hload] at h
    dsimp only at h
    by_cases hclosed : snapshot.closed = true
    · rw [if_pos hclosed] at h
      cases h
    · rw [if_neg hclosed] at h
      obtain rfl := Option.some.inj h
      exact ⟨rfl, .of_load hload rfl rfl⟩

theorem refresh_handles (m : LobbyMatch) (db : Db) :
    Handles bcrypt m db (some (m.refresh db)) db := by
  unfold LobbyMatch.refresh
  cases hload : loadLobbySnapshot m.lobbyId db with
  | error e => exact .refuse m (.inl rfl)
  | ok snapshot => exact .applyLive (.inl rfl) rfl hload

theorem step_invariant {label : MatchLabel} (h : SystemInvariant S)
    (hstep : MatchStep bcrypt S label S') : SystemInvariant S' := by
  cases label with
  | other event =>
    obtain ⟨db, hevent, rfl⟩ := Option.map_eq_some_iff.mp hstep
    exact ⟨step_consistent h.consistent hevent, event_stored hevent h.stored,
      fun m hm => (h.cached m hm).evolves (.of_event h.consistent hevent)⟩
  | init lobbyId round =>
    simp only [MatchStep, LobbySystem.perform] at hstep
    cases hm : S.lobbyMatch with
    | some m =>
      rw [hm] at hstep
      cases hstep
    | none =>
      rw [hm] at hstep
      obtain ⟨m, hinit, rfl⟩ := Option.map_eq_some_iff.mp hstep
      refine ⟨h.consistent, h.stored, fun next hnext => ?_⟩
      obtain rfl := Option.some.inj hnext
      exact (matchInit_cached hinit).2
  | matchJoin =>
    obtain ⟨m, hm, rfl⟩ := Option.map_eq_some_iff.mp hstep
    have hcall : Handles bcrypt m S.db _ _ := refresh_handles m S.db
    exact h.handles hm hcall
  | matchLeave draws departed =>
    obtain ⟨m, hm, rfl⟩ := Option.map_eq_some_iff.mp hstep
    have hcall : Handles bcrypt m S.db _ _ := matchLeave_handles draws m S.db departed
    exact h.handles hm hcall
  | matchLoop draws presences messages =>
    obtain ⟨m, hm, rfl⟩ := Option.map_eq_some_iff.mp hstep
    have hcall : Handles bcrypt m S.db _ _ := matchLoop_handles draws m S.db presences messages
    exact h.handles hm hcall
  | signal draws signal =>
    obtain ⟨m, hm, rfl⟩ := Option.map_eq_some_iff.mp hstep
    have hcall : Handles bcrypt m S.db _ _ := matchSignal_handles draws m S.db signal
    exact h.handles hm hcall

theorem noMatch_invariant (versions : List (String × MapVersionStatus)) :
    SystemInvariant (noMatch versions) where
  consistent := consistent_noLobbies versions
  stored := ⟨fun _ h => absurd h Table.not_mem_empty, fun _ h => absurd h Table.not_mem_empty⟩
  cached := fun _ h => by cases h

/-- **Every reachable state** meets the invariant. -/
theorem reachable_invariant {versions : List (String × MapVersionStatus)}
    {ts : List (Transition LobbySystem MatchLabel)} (hrun : Run (MatchStep bcrypt) (noMatch versions) ts S) :
    SystemInvariant S :=
  (hrun.invariant' (fun _ _ _ h hstep => step_invariant h hstep) (noMatch_invariant versions)).1

end Runs

end HiveChameleon.Nakama.Lobby
