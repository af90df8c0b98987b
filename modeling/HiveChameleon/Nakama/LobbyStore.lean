import HiveChameleon.Nakama.LobbyTables

/-!
# Nakama.LobbyStore — the commands of the lobby store

`lobby_store.go` and the lobby commands of `round_scaffold.go`: `Create`, `Join`, `Leave`,
`UpdateConfiguration`, `RecordNominationChange` and `StartRound`, each one `SERIALIZABLE`
transaction, so that the committed ones act as if run one after another.  A command returns its
answer and the database it commits.
-/

namespace HiveChameleon.Nakama.Lobby

open Lib

/-! ### Snapshots -/

structure LobbyMemberSnapshot where
  playerId : String
  joinedAt : Time
deriving DecidableEq, Repr

structure LobbySnapshot where
  id : String
  name : String
  visibility : LobbyVisibility
  maxPlayers : ℤ
  regionCode : String
  currentHostPlayerId : String
  rowVersion : ℤ
  closed : Bool
  members : List LobbyMemberSnapshot
  hunterNomineeIds : List String
  configuration : LobbyConfiguration
deriving DecidableEq, Repr

/-- `ORDER BY joined_at, id` -/
def JoinedBefore (a b : LobbyMembershipRow) : Prop :=
  a.joinedAt < b.joinedAt ∨ a.joinedAt = b.joinedAt ∧ a.id ≤ b.id

instance : DecidableRel JoinedBefore := fun _ _ => inferInstanceAs (Decidable (_ ∨ _))

/-- The open members of a lobby, in the order in which they joined. -/
def openMembers (lobbyId : String) (db : Db) : List LobbyMembershipRow :=
  (db.lobbyMembership.rows.filter fun m => m.lobbyId = lobbyId ∧ m.Open).insertionSort JoinedBefore

def loadLobbySnapshot (lobbyId : String) (db : Db) : Except LobbyError LobbySnapshot :=
  match db.lobby.find? lobbyId, db.lobbyConfiguration.find? lobbyId with
  | some lobby, some configuration =>
    let members := openMembers lobbyId db
    .ok {
      id := lobby.id
      name := lobby.name
      visibility := lobby.visibility
      maxPlayers := lobby.maxPlayers
      regionCode := lobby.regionCode
      currentHostPlayerId := lobby.currentHostPlayerId
      rowVersion := lobby.rowVersion
      closed := lobby.closedAt.isSome
      members := members.map fun m => ⟨m.playerId, m.joinedAt⟩
      hunterNomineeIds := (members.filter (·.hunterNominated)).map (·.playerId)
      configuration := configuration.configuration }
  | _, _ => .error (.problem grpcNotFound "lobby not found")

def isOpenMember (lobbyId playerId : String) (db : Db) : Bool :=
  db.lobby.rows.any fun lobby => lobby.id = lobbyId && lobby.closedAt = none &&
    db.lobbyMembership.rows.any fun m => m.lobbyId = lobby.id && m.playerId = playerId && m.Open

def activeRoundExists (lobbyId : String) (db : Db) : Bool :=
  db.gameRound.rows.any fun r => r.lobbyId = lobbyId && r.Active

/-- The open membership of a player. -/
def openMembership (playerId : String) (db : Db) : Option LobbyMembershipRow :=
  db.lobbyMembership.rows.find? fun m => m.playerId = playerId && m.Open

/-- `UPDATE game.lobby SET row_version = row_version + 1` -/
def advanceVersion : Table.Assignment LobbyRow.id :=
  ⟨fun row => { row with rowVersion := row.rowVersion + 1 }, fun _ => rfl⟩

/-! ### `Create` -/

structure CreateLobbyRequest where
  name : String
  visibility : LobbyVisibility
  password : String
  maxPlayers : ℤ
  regionCode : String
deriving DecidableEq, Repr

/-- The ids that `Create` draws. -/
structure CreateDraw where
  lobbyId : String
  membershipId : String
  assignmentId : String
deriving DecidableEq, Repr

def defaultConfiguration (maxPlayers : ℤ) : LobbyConfiguration where
  mode := .casual
  mapVersionId := none
  hunterCount := 1
  hidingDurationSeconds := 60
  huntingDurationSeconds := 180
  tauntEnabled := true
  tauntIntervalSeconds := some 30
  shellLimit := 6
  reloadDurationMs := 2000
  autoStartEnabled := true
  autoStartThreshold := min 7 maxPlayers
  rowVersion := 1

def creatorLobby (draw : CreateDraw) (now : Time) (playerId : String)
    (request : CreateLobbyRequest) (passwordHash : String) : LobbyRow where
  id := draw.lobbyId
  name := request.name
  currentHostPlayerId := playerId
  visibility := request.visibility
  passwordHash := if request.visibility = .privateLobby then some passwordHash else none
  maxPlayers := request.maxPlayers
  regionCode := request.regionCode
  createdAt := now
  closedAt := none
  rowVersion := 1

def creatorMembership (draw : CreateDraw) (now : Time) (playerId : String) : LobbyMembershipRow where
  id := draw.membershipId
  lobbyId := draw.lobbyId
  playerId := playerId
  joinSource := .serverBrowser
  joinedAt := now
  leftAt := none
  hunterNominated := false

def creatorAssignment (draw : CreateDraw) (now : Time) (playerId : String) :
    LobbyHostAssignmentRow where
  id := draw.assignmentId
  lobbyId := draw.lobbyId
  hostPlayerId := playerId
  reason := .creator
  startedAt := now
  endedAt := none

def create (draw : CreateDraw) (now : Time) (playerId : String) (request : CreateLobbyRequest)
    (passwordHash : String) (db : Db) : Except LobbyError (LobbySnapshot × Db) :=
  match openMembership playerId db with
  | some existing => do
    let snapshot ← loadLobbySnapshot existing.lobbyId db
    pure (snapshot, db)
  | none => do
    require (request.visibility = .privateLobby → passwordHash ≠ "")
      (.text "private lobby password hash is unavailable")
    let db ← insertLobby (creatorLobby draw now playerId request passwordHash) db
    let db ← insertMembership (creatorMembership draw now playerId) db
    let db ← insertHostAssignment (creatorAssignment draw now playerId) db
    let db ← insertConfiguration ⟨draw.lobbyId, defaultConfiguration request.maxPlayers, now⟩ db
    let snapshot ← loadLobbySnapshot draw.lobbyId db
    let db ← commitLobby draw.lobbyId db
    pure (snapshot, db)

/-! ### `Join` -/

structure JoinLobbyRequest where
  lobbyId : String
  password : String
  joinSource : LobbyJoinSource
deriving DecidableEq, Repr

/-- `bcrypt.CompareHashAndPassword` -/
abbrev PasswordCheck := String → String → Bool

def joinMembership (membershipId : String) (transactionTime : Time) (playerId : String)
    (request : JoinLobbyRequest) : LobbyMembershipRow where
  id := membershipId
  lobbyId := request.lobbyId
  playerId := playerId
  joinSource := request.joinSource
  joinedAt := transactionTime
  leftAt := none
  hunterNominated := false

/-- `Join`; `joined_at` defaults to the time at which the transaction began. -/
def join (bcrypt : PasswordCheck) (membershipId : String) (transactionTime : Time)
    (playerId : String) (request : JoinLobbyRequest) (db : Db) :
    Except LobbyError (LobbySnapshot × Db) :=
  match db.lobby.find? request.lobbyId with
  | none => .error (.problem grpcNotFound "lobby not found")
  | some lobby => do
    require (lobby.closedAt = none) (.problem grpcFailedPrecondition "lobby is closed")
    require (lobby.visibility = .privateLobby →
        ∃ passwordHash ∈ lobby.passwordHash, bcrypt passwordHash request.password = true)
      (.problem grpcPermissionDenied "invalid lobby password")
    match openMembership playerId db with
    | some current => do
      require (current.lobbyId = request.lobbyId)
        (.problem grpcFailedPrecondition "player already belongs to another open lobby")
      let snapshot ← loadLobbySnapshot request.lobbyId db
      pure (snapshot, db)
    | none => do
      require (((openMembers request.lobbyId db).length : ℤ) < lobby.maxPlayers)
        (.problem grpcFailedPrecondition "lobby is full")
      require (activeRoundExists request.lobbyId db = false)
        (.problem grpcFailedPrecondition "cannot join while a round is active")
      let db ← insertMembership (joinMembership membershipId transactionTime playerId request) db
      let db ← updateLobby request.lobbyId advanceVersion db
      let snapshot ← loadLobbySnapshot request.lobbyId db
      let db ← commitLobby request.lobbyId db
      pure (snapshot, db)

/-! ### Host commands -/

/-- `lockHostConfiguration`: the configuration and the capacity, for the host alone. -/
def lockHostConfiguration (lobbyId playerId : String) (expectedVersion : ℤ) (db : Db) :
    Except LobbyError (LobbyConfiguration × ℤ) :=
  match db.lobby.find? lobbyId,
      db.lobbyHostAssignment.rows.find? (fun a => a.lobbyId = lobbyId && a.Open),
      db.lobbyConfiguration.find? lobbyId with
  | some lobby, some assignment, some configuration => do
    require (lobby.closedAt = none) (.problem grpcFailedPrecondition "lobby is closed")
    require (lobby.currentHostPlayerId = assignment.hostPlayerId)
      (.text "lobby host assignment is inconsistent")
    require (playerId = assignment.hostPlayerId)
      (.problem grpcPermissionDenied "current lobby host required")
    require (lobby.rowVersion = expectedVersion)
      (.problem grpcAborted "lobby version changed; refresh state and retry")
    pure (configuration.configuration, lobby.maxPlayers)
  | _, _, _ => .error (.problem grpcNotFound "open lobby not found")

/-- A patch of the configuration; the texts are as `TrimSpace` leaves them. -/
structure UpdateLobbyConfigurationRequest where
  lobbyId : String
  expectedLobbyVersion : ℤ
  mode : Option GameMode
  mapVersionId : Option String
  hunterCount : Option ℤ
  hidingDurationSeconds : Option ℤ
  huntingDurationSeconds : Option ℤ
  tauntEnabled : Option Bool
  tauntIntervalSeconds : Option ℤ
  shellLimit : Option ℤ
  reloadDurationMs : Option ℤ
  autoStartEnabled : Option Bool
  autoStartThreshold : Option ℤ
deriving DecidableEq, Repr

/-- The map version of a patch: the empty text clears it. -/
def patchMapVersion (current : Option String) :
    Option String → Except LobbyError (Option String)
  | none => .ok current
  | some mapVersionId =>
    if mapVersionId = "" then .ok none
    else if canonicalUUIDV7 mapVersionId then .ok (some mapVersionId)
    else .error (.problem grpcInvalidArgument "map version ID must be a UUIDv7")

def applyConfigurationPatch (current : LobbyConfiguration)
    (request : UpdateLobbyConfigurationRequest) (maxPlayers : ℤ) :
    Except LobbyError LobbyConfiguration := do
  let mapVersionId ← patchMapVersion current.mapVersionId request.mapVersionId
  let next : LobbyConfiguration := { current with
    mode := request.mode.getD current.mode
    mapVersionId := mapVersionId
    hunterCount := request.hunterCount.getD current.hunterCount
    hidingDurationSeconds := request.hidingDurationSeconds.getD current.hidingDurationSeconds
    huntingDurationSeconds := request.huntingDurationSeconds.getD current.huntingDurationSeconds
    tauntEnabled := request.tauntEnabled.getD current.tauntEnabled
    tauntIntervalSeconds := request.tauntIntervalSeconds.or current.tauntIntervalSeconds
    shellLimit := request.shellLimit.getD current.shellLimit
    reloadDurationMs := request.reloadDurationMs.getD current.reloadDurationMs
    autoStartEnabled := request.autoStartEnabled.getD current.autoStartEnabled
    autoStartThreshold := request.autoStartThreshold.getD current.autoStartThreshold }
  require (next.mode = .casual ∨ next.mode = .infection)
    (.problem grpcInvalidArgument "lobby mode is invalid")
  require (1 ≤ next.hunterCount ∧ next.hunterCount ≤ 2)
    (.problem grpcInvalidArgument "hunter count must be 1 or 2")
  require (10 ≤ next.hidingDurationSeconds ∧ next.hidingDurationSeconds ≤ 600)
    (.problem grpcInvalidArgument "hiding duration must be between 10 and 600 seconds")
  require (30 ≤ next.huntingDurationSeconds ∧ next.huntingDurationSeconds ≤ 1800)
    (.problem grpcInvalidArgument "hunting duration must be between 30 and 1800 seconds")
  require (1 ≤ next.shellLimit ∧ next.shellLimit ≤ 100)
    (.problem grpcInvalidArgument "shell limit must be between 1 and 100")
  require (100 ≤ next.reloadDurationMs ∧ next.reloadDurationMs ≤ 30000)
    (.problem grpcInvalidArgument "reload duration must be between 100 and 30000 milliseconds")
  require (lobbyMinimumPlayers ≤ next.autoStartThreshold ∧ next.autoStartThreshold ≤ maxPlayers)
    (.problem grpcInvalidArgument "automatic-start threshold must fit the lobby capacity")
  require (next.tauntEnabled = true →
      ∃ interval ∈ next.tauntIntervalSeconds, 5 ≤ interval ∧ interval ≤ 300)
    (.problem grpcInvalidArgument "enabled taunts require an interval between 5 and 300 seconds")
  pure (if next.tauntEnabled then next else { next with tauntIntervalSeconds := none })

/-- `UPDATE game.lobby_configuration SET …` -/
def updateLobbyConfiguration (lobbyId : String) (next : LobbyConfiguration) (now : Time) (db : Db) :
    Except LobbyError Db := do
  require (∀ id ∈ next.mapVersionId, id ∈ db.mapVersion.map (·.1))
    (.constraint "fk_lobby_configuration_map")
  let table ← db.lobbyConfiguration.update (fun row => row.lobbyId = lobbyId)
    ⟨fun row => { row with
      configuration := { next with rowVersion := row.configuration.rowVersion + 1 }
      updatedAt := now }, fun _ => rfl⟩ fun _ new => configurationChecks new.configuration
  pure { db with lobbyConfiguration := table }

def updateConfiguration (now : Time) (playerId : String) (request : UpdateLobbyConfigurationRequest)
    (db : Db) : Except LobbyError (LobbySnapshot × Db) := do
  let (current, maxPlayers) ←
    lockHostConfiguration request.lobbyId playerId request.expectedLobbyVersion db
  require (activeRoundExists request.lobbyId db = false)
    (.problem grpcFailedPrecondition "cannot configure while a round is active")
  let next ← applyConfigurationPatch current request maxPlayers
  let db ← updateLobbyConfiguration request.lobbyId next now db
  let db ← updateLobby request.lobbyId advanceVersion db
  let snapshot ← loadLobbySnapshot request.lobbyId db
  let db ← commitLobby request.lobbyId db
  pure (snapshot, db)

/-! ### `Leave` -/

/-- The `UPDATE … RETURNING player_id` of `Leave`: the players who left. -/
def departing (lobbyId : String) (playerIds : List String) (db : Db) : List String :=
  (db.lobbyMembership.rows.filter fun m =>
    m.lobbyId = lobbyId ∧ m.playerId ∈ playerIds ∧ m.Open).map (·.playerId)

def leftAt (now : Time) : Table.Assignment LobbyMembershipRow.id :=
  ⟨fun row => { row with leftAt := some now }, fun _ => rfl⟩

def endedAt (now : Time) : Table.Assignment LobbyHostAssignmentRow.id :=
  ⟨fun row => { row with endedAt := some now }, fun _ => rfl⟩

/-- `UPDATE game.lobby_host_assignment SET ended_at = … WHERE … AND ended_at IS NULL` -/
def endHostAssignment (lobbyId : String) (now : Time) (db : Db) : Except LobbyError Db := do
  let table ← db.lobbyHostAssignment.update (fun row => row.lobbyId = lobbyId ∧ row.Open)
    (endedAt now) fun _ new => hostAssignmentChecks new
  pure { db with lobbyHostAssignment := table }

def abortedAt (now : Time) : Table.Assignment GameRoundRow.id :=
  ⟨fun row => { row with
    status := .aborted
    endedAt := some now
    abortReason := some "lobby_closed" }, fun _ => rfl⟩

/-- `UPDATE game.game_round SET status = 'aborted', … WHERE …` -/
def abortRounds (lobbyId : String) (now : Time) (db : Db) : Except LobbyError Db := do
  let table ← db.gameRound.update (fun row => row.lobbyId = lobbyId ∧ row.Active) (abortedAt now)
    fun _ new => roundChecks new
  pure { db with gameRound := table }

def closedBy (now : Time) : Table.Assignment LobbyRow.id :=
  ⟨fun row => { row with closedAt := some now, rowVersion := row.rowVersion + 1 }, fun _ => rfl⟩

def hostedBy (playerId : String) : Table.Assignment LobbyRow.id :=
  ⟨fun row => { row with
    currentHostPlayerId := playerId
    rowVersion := row.rowVersion + 1 }, fun _ => rfl⟩

/-- The host left: the earliest remaining member takes over, or the lobby closes. -/
def replaceHost (assignmentId : String) (now : Time) (lobbyId : String)
    (hostReason : HostAssignmentReason) (db : Db) : Except LobbyError (Bool × Db) := do
  require (hostReason = .hostLeft ∨ hostReason = .hostDisconnected)
    (.text "invalid host departure reason")
  let db ← endHostAssignment lobbyId now db
  match openMembers lobbyId db with
  | [] => do
    let db ← updateLobby lobbyId (closedBy now) db
    let db ← abortRounds lobbyId now db
    pure (true, db)
  | replacement :: _ => do
    let db ← insertHostAssignment
      ⟨assignmentId, lobbyId, replacement.playerId, hostReason, now, none⟩ db
    let db ← updateLobby lobbyId (hostedBy replacement.playerId) db
    pure (false, db)

/-- `Leave`: the snapshot, whether the lobby is closed, and the database. -/
def leave (assignmentId : String) (now : Time) (lobbyId : String) (playerIds : List String)
    (hostReason : HostAssignmentReason) (db : Db) :
    Except LobbyError (LobbySnapshot × Bool × Db) :=
  match db.lobby.find? lobbyId with
  | none => .error (.problem grpcNotFound "lobby not found")
  | some lobby =>
    if lobby.closedAt ≠ none then do
      let snapshot ← loadLobbySnapshot lobbyId db
      pure (snapshot, true, db)
    else if departing lobbyId playerIds db = [] then do
      let snapshot ← loadLobbySnapshot lobbyId db
      pure (snapshot, false, db)
    else do
      let affected := departing lobbyId playerIds db
      let db ← updateMembers lobbyId (fun row => row.playerId ∈ playerIds) (leftAt now) db
      let (closed, db) ←
        (if lobby.currentHostPlayerId ∈ affected then
          replaceHost assignmentId now lobbyId hostReason db
        else do
          let db ← updateLobby lobbyId advanceVersion db
          pure (false, db))
      let snapshot ← loadLobbySnapshot lobbyId db
      let db ← commitLobby lobbyId db
      pure (snapshot, closed, db)

/-! ### `RecordNominationChange` -/

structure NominateHunterRequest where
  lobbyId : String
  expectedLobbyVersion : ℤ
  nominated : Bool
deriving DecidableEq, Repr

def nominated (value : Bool) : Table.Assignment LobbyMembershipRow.id :=
  ⟨fun row => { row with hunterNominated := value }, fun _ => rfl⟩

def recordNominationChange (playerId : String) (request : NominateHunterRequest) (db : Db) :
    Except LobbyError (LobbySnapshot × Db) :=
  match db.lobby.find? request.lobbyId with
  | none => .error (.problem grpcNotFound "lobby not found")
  | some lobby => do
    require (lobby.closedAt = none) (.problem grpcFailedPrecondition "lobby is closed")
    require (lobby.rowVersion = request.expectedLobbyVersion)
      (.problem grpcAborted "lobby version changed; refresh state and retry")
    require (activeRoundExists request.lobbyId db = false)
      (.problem grpcFailedPrecondition "hunter nomination is closed after round start")
    let updated := departing request.lobbyId [playerId] db
    let db ← updateMembers request.lobbyId (fun row => row.playerId = playerId)
      (nominated request.nominated) db
    require (updated.length = 1) (.problem grpcPermissionDenied "open lobby membership required")
    let db ← updateLobby request.lobbyId advanceVersion db
    let snapshot ← loadLobbySnapshot request.lobbyId db
    let db ← commitLobby request.lobbyId db
    pure (snapshot, db)

/-! ### Drawing roles -/

/-- The numbers that a random source yields; it fails at the end. -/
abbrev Random := List ℕ

/-- `rand.Int` below `n` -/
def randInt (n : ℕ) (message : String) : Random → Except LobbyError (ℕ × Random)
  | [] => .error (.text message)
  | k :: random => .ok (k % n, random)

def swap {α : Type} (values : List α) (i j : ℕ) : List α :=
  match values[i]?, values[j]? with
  | some a, some b => (values.set i b).set j a
  | _, _ => values

/-- The loop of `shuffleStrings` and `shuffleInts`, from an index down. -/
def shuffleFrom {α : Type} (message : String) :
    ℕ → List α → Random → Except LobbyError (List α × Random)
  | 0, values, random => .ok (values, random)
  | index + 1, values, random => do
    let (selected, random) ← randInt (index + 2) message random
    shuffleFrom message index (swap values (index + 1) selected) random

def shuffleStrings (values : List String) : Random → Except LobbyError (List String × Random) :=
  shuffleFrom "read role assignment randomness" (values.length - 1) values

def shuffleInts (values : List ℤ) : Random → Except LobbyError (List ℤ × Random) :=
  shuffleFrom "read hiding-slot randomness" (values.length - 1) values

/-- The checks of the loop of `selectRoundRoles`, member by member. -/
def checkMembers (seen : List String) : List String → Except LobbyError Unit
  | [] => .ok ()
  | playerId :: members => do
    require (playerId ≠ "") (.text "round member ID is required")
    require (playerId ∉ seen) (.text "round members must be unique")
    checkMembers (playerId :: seen) members

def selectRoundRoles (members : List String) (nominations : List String) (hunterCount : ℤ)
    (random : Random) : Except LobbyError (List RoundRoleAssignment × Random) := do
  require (1 ≤ hunterCount ∧ hunterCount < members.length)
    (.text "hunter count must leave at least one hider")
  checkMembers [] members
  let volunteers := (members.filter fun playerId => playerId ∈ nominations).insertionSort (· ≤ ·)
  let others := (members.filter fun playerId => playerId ∉ nominations).insertionSort (· ≤ ·)
  let (volunteers, random) ← shuffleStrings volunteers random
  let (others, random) ← shuffleStrings others random
  let hunters := (volunteers ++ others).take hunterCount.toNat
  pure (members.map fun playerId =>
    ⟨playerId, if playerId ∈ hunters then .hunter else .hider, playerId ∈ nominations, 0⟩, random)

/-- The slots go to the hiders in their order. -/
def seatHiders : List RoundRoleAssignment → List ℤ → List RoundRoleAssignment
  | [], _ => []
  | assignment :: assignments, slots =>
    if assignment.role = .hider then
      match slots with
      | [] => assignment :: seatHiders assignments []
      | slot :: slots => { assignment with hidingSlot := slot } :: seatHiders assignments slots
    else assignment :: seatHiders assignments slots

def assignCasualHidingSlots (assignments : List RoundRoleAssignment) (random : Random) :
    Except LobbyError (ℕ × List RoundRoleAssignment) := do
  let hiders := assignments.filter fun assignment => assignment.role = .hider
  require (hiders ≠ []) (.text "casual round requires at least one hider")
  let targetSlotCount := max (hiders.length + 2) minimumCasualTargetSlots
  let (slots, _) ← shuffleInts ((List.range targetSlotCount).map fun index => (index : ℤ) + 1) random
  pure (targetSlotCount, seatHiders assignments slots)

/-! ### `StartRound` -/

structure StartLobbyRequest where
  lobbyId : String
  expectedLobbyVersion : ℤ
deriving DecidableEq, Repr

def nextSequenceNumber (lobbyId : String) (db : Db) : ℕ :=
  ((db.gameRound.rows.filter fun r => r.lobbyId = lobbyId).map (·.sequenceNumber)).foldr max 0 + 1

def roundHeader (roundId lobbyId : String) (sequenceNumber : ℕ) (configuration : LobbyConfiguration)
    (mapVersionId : String) (startedAt : Time) : GameRoundRow where
  id := roundId
  lobbyId := lobbyId
  sequenceNumber := sequenceNumber
  configuration := configuration
  mapVersionId := mapVersionId
  gameServerBuildVersion := "hive-chameleon-m4-dev"
  protocolVersion := "m4-v1"
  status := .preparing
  winningSide := none
  resultSchemaVersion := "match-result-1"
  scoringRuleVersion := "scoring-1"
  canonicalResultSha256 := none
  startedAt := startedAt
  endedAt := none
  abortReason := none

def GameMode.text : GameMode → String
  | casual => "casual"
  | infection => "infection"
  | other text => text

/-- The checks and draws of `StartRound` before it writes: the map version, the slot count and the
roles. -/
def drawRound (lobbyId : String) (configuration : LobbyConfiguration) (random : Random) (db : Db) :
    Except LobbyError (String × ℕ × List RoundRoleAssignment) :=
  match configuration.mapVersionId with
  | none =>
    .error (.problem grpcFailedPrecondition "select a published map version before starting")
  | some mapVersionId =>
    match db.mapVersion.find? fun version => version.1 = mapVersionId with
    | none => .error (.problem grpcFailedPrecondition "selected map version is unavailable")
    | some version => do
      require (version.2 = .published)
        (.problem grpcFailedPrecondition "selected map version is not published")
      require (activeRoundExists lobbyId db = false)
        (.problem grpcFailedPrecondition "lobby already has an active round")
      let members := openMembers lobbyId db
      require (configuration.hunterCount + 1 ≤ members.length)
        (.problem grpcFailedPrecondition
          "lobby needs the configured hunters plus at least one hider")
      let (assignments, random) ← selectRoundRoles (members.map (·.playerId))
        ((members.filter (·.hunterNominated)).map (·.playerId)) configuration.hunterCount random
      if configuration.mode = .casual then do
        let (targetSlotCount, assignments) ← assignCasualHidingSlots assignments random
        pure (mapVersionId, targetSlotCount, assignments)
      else pure (mapVersionId, 0, assignments)

def startRound (roundId : String) (startedAt : Time) (random : Random) (playerId : String)
    (request : StartLobbyRequest) (db : Db) :
    Except LobbyError (LobbySnapshot × RoundSnapshot × Db) := do
  let (configuration, _) ←
    lockHostConfiguration request.lobbyId playerId request.expectedLobbyVersion db
  let (mapVersionId, targetSlotCount, assignments) ←
    drawRound request.lobbyId configuration random db
  let db ← insertRound (roundHeader roundId request.lobbyId (nextSequenceNumber request.lobbyId db)
    configuration mapVersionId startedAt) db
  let db ← updateLobby request.lobbyId advanceVersion db
  let db ← updateMembers request.lobbyId (fun row => row.hunterNominated = true) (nominated false) db
  let snapshot ← loadLobbySnapshot request.lobbyId db
  let db ← commitLobby request.lobbyId db
  pure (snapshot,
    ⟨roundId, configuration.mode.text, startedAt, targetSlotCount,
      configuration.hidingDurationSeconds, configuration.huntingDurationSeconds,
      configuration.shellLimit, configuration.reloadDurationMs, assignments⟩, db)

end HiveChameleon.Nakama.Lobby
