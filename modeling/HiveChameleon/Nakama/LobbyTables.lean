import HiveChameleon.Nakama.Database
import Mathlib.Data.List.Sort
import Mathlib.Data.String.Basic

/-!
# Nakama.LobbyTables — the tables of a lobby

`game.lobby`, its memberships, host assignments, configuration and rounds, with the constraints of
the schema and the deferred trigger `hc_check_lobby_host_consistency`.  Ids are the texts that the
runtime passes around; an enumeration that the code compares with constants has one constructor for
any other text.
-/

namespace HiveChameleon.Nakama.Lobby

open Lib

/-- Why a command failed. -/
inductive LobbyError where
  | problem (code : ℕ) (message : String)
  | text (message : String)
  | constraint (name : String)
  | raised (sqlstate message : String)
deriving DecidableEq, Repr

def grpcInvalidArgument : ℕ := 3
def grpcNotFound : ℕ := 5
def grpcPermissionDenied : ℕ := 7
def grpcFailedPrecondition : ℕ := 9
def grpcAborted : ℕ := 10

def lobbyMinimumPlayers : ℤ := 2

/-- `game.lobby_visibility` -/
inductive LobbyVisibility where
  | publicLobby | privateLobby
deriving DecidableEq, Repr

/-- `game.lobby_join_source` -/
inductive LobbyJoinSource where
  | serverBrowser | quickPlay | friendJoin | invitation | accessCode | reconnect
deriving DecidableEq, Repr

/-- `game.host_assignment_reason` -/
inductive HostAssignmentReason where
  | creator | manualTransfer | hostLeft | hostDisconnected | afk | other (text : String)
deriving DecidableEq, Repr

/-- `game.game_mode` -/
inductive GameMode where
  | casual | infection | other (text : String)
deriving DecidableEq, Repr

inductive MapVersionStatus where
  | published | other (text : String)
deriving DecidableEq, Repr

/-! ### Rows -/

structure LobbyRow where
  id : String
  name : String
  currentHostPlayerId : String
  visibility : LobbyVisibility
  passwordHash : Option String
  maxPlayers : ℤ
  regionCode : String
  createdAt : Time
  closedAt : Option Time
  rowVersion : ℤ
deriving DecidableEq, Repr

structure LobbyMembershipRow where
  id : String
  lobbyId : String
  playerId : String
  joinSource : LobbyJoinSource
  joinedAt : Time
  leftAt : Option Time
  hunterNominated : Bool
deriving DecidableEq, Repr

structure LobbyHostAssignmentRow where
  id : String
  lobbyId : String
  hostPlayerId : String
  reason : HostAssignmentReason
  startedAt : Time
  endedAt : Option Time
deriving DecidableEq, Repr

/-- The configuration of a lobby, also as a snapshot shows it. -/
structure LobbyConfiguration where
  mode : GameMode
  mapVersionId : Option String
  hunterCount : ℤ
  hidingDurationSeconds : ℤ
  huntingDurationSeconds : ℤ
  tauntEnabled : Bool
  tauntIntervalSeconds : Option ℤ
  shellLimit : ℤ
  reloadDurationMs : ℤ
  autoStartEnabled : Bool
  autoStartThreshold : ℤ
  rowVersion : ℤ
deriving DecidableEq, Repr

structure LobbyConfigurationRow where
  lobbyId : String
  configuration : LobbyConfiguration
  updatedAt : Time
deriving DecidableEq, Repr

structure GameRoundRow where
  id : String
  lobbyId : String
  sequenceNumber : ℕ
  configuration : LobbyConfiguration
  mapVersionId : String
  gameServerBuildVersion : String
  protocolVersion : String
  status : RoundStatus
  winningSide : Option WinningSide
  resultSchemaVersion : String
  scoringRuleVersion : String
  canonicalResultSha256 : Option String
  startedAt : Time
  endedAt : Option Time
  abortReason : Option String
deriving DecidableEq, Repr

def LobbyMembershipRow.Open (row : LobbyMembershipRow) : Prop := row.leftAt = none

def LobbyHostAssignmentRow.Open (row : LobbyHostAssignmentRow) : Prop := row.endedAt = none

/-- `status NOT IN ('completed', 'aborted')` -/
def GameRoundRow.Active (row : GameRoundRow) : Prop :=
  row.status ≠ .completed ∧ row.status ≠ .aborted

instance (row : LobbyMembershipRow) : Decidable row.Open := inferInstanceAs (Decidable (_ = _))

instance (row : LobbyHostAssignmentRow) : Decidable row.Open := inferInstanceAs (Decidable (_ = _))

instance (row : GameRoundRow) : Decidable row.Active := inferInstanceAs (Decidable (_ ∧ _))

structure Db where
  lobby : Table LobbyRow (·.id)
  lobbyMembership : Table LobbyMembershipRow (·.id)
  lobbyHostAssignment : Table LobbyHostAssignmentRow (·.id)
  lobbyConfiguration : Table LobbyConfigurationRow (·.lobbyId)
  gameRound : Table GameRoundRow (·.id)
  mapVersion : List (String × MapVersionStatus)

/-! ### Constraints -/

def lobbyChecks (row : LobbyRow) : Except LobbyError Unit := do
  require (2 ≤ row.maxPlayers ∧ row.maxPlayers ≤ 10) (.constraint "chk_lobby_max_players")
  require ((row.visibility = .publicLobby ∧ row.passwordHash = none) ∨
    (row.visibility = .privateLobby ∧ row.passwordHash ≠ none))
    (.constraint "chk_lobby_password_policy")
  require (∀ closedAt ∈ row.closedAt, row.createdAt ≤ closedAt) (.constraint "chk_lobby_closed_time")

def membershipChecks (row : LobbyMembershipRow) : Except LobbyError Unit :=
  require (∀ leftAt ∈ row.leftAt, row.joinedAt ≤ leftAt)
    (.constraint "chk_lobby_membership_left_time")

def hostAssignmentChecks (row : LobbyHostAssignmentRow) : Except LobbyError Unit :=
  require (∀ endedAt ∈ row.endedAt, row.startedAt ≤ endedAt)
    (.constraint "chk_lobby_host_assignment_time")

def configurationChecks (row : LobbyConfiguration) : Except LobbyError Unit := do
  require (1 ≤ row.hunterCount ∧ row.hunterCount ≤ 2)
    (.constraint "chk_lobby_configuration_hunters")
  require (0 < row.hidingDurationSeconds) (.constraint "chk_lobby_configuration_hiding_time")
  require (0 < row.huntingDurationSeconds) (.constraint "chk_lobby_configuration_hunting_time")
  require (0 < row.shellLimit) (.constraint "chk_lobby_configuration_shell_limit")
  require (0 < row.reloadDurationMs) (.constraint "chk_lobby_configuration_reload")
  require (2 ≤ row.autoStartThreshold ∧ row.autoStartThreshold ≤ 10)
    (.constraint "chk_lobby_configuration_auto_start")
  require (row.tauntEnabled = true → ∃ interval ∈ row.tauntIntervalSeconds, 0 < interval)
    (.constraint "chk_lobby_configuration_taunt")

def roundChecks (row : GameRoundRow) : Except LobbyError Unit := do
  require (0 < row.sequenceNumber) (.constraint "chk_game_round_sequence")
  require (1 ≤ row.configuration.hunterCount ∧ row.configuration.hunterCount ≤ 2)
    (.constraint "chk_game_round_hunters")
  require (0 < row.configuration.hidingDurationSeconds ∧
      0 < row.configuration.huntingDurationSeconds)
    (.constraint "chk_game_round_times")
  require (row.configuration.tauntEnabled = true →
      ∃ interval ∈ row.configuration.tauntIntervalSeconds, 0 < interval)
    (.constraint "chk_game_round_taunt")
  require (0 < row.configuration.shellLimit ∧ 0 < row.configuration.reloadDurationMs)
    (.constraint "chk_game_round_weapon_rules")
  require (row.status = .aborted → row.endedAt ≠ none ∧ row.abortReason ≠ none ∧
      row.winningSide = none)
    (.constraint "chk_game_round_aborted")
  require (row.status = .completed → row.endedAt ≠ none ∧ row.winningSide ≠ none ∧
      row.canonicalResultSha256 ≠ none)
    (.constraint "chk_game_round_completed")

/-! ### Statements -/

def insertLobby (row : LobbyRow) (db : Db) : Except LobbyError Db := do
  lobbyChecks row
  let table ← db.lobby.insert row (.constraint "lobby_pkey")
  pure { db with lobby := table }

def insertMembership (row : LobbyMembershipRow) (db : Db) : Except LobbyError Db := do
  membershipChecks row
  require (∃ lobby ∈ db.lobby.rows, lobby.id = row.lobbyId)
    (.constraint "fk_lobby_membership_lobby")
  require (row.Open → ∀ m ∈ db.lobbyMembership.rows, m.Open → m.playerId ≠ row.playerId)
    (.constraint "uq_lobby_membership_one_open_per_player")
  let table ← db.lobbyMembership.insert row (.constraint "lobby_membership_pkey")
  pure { db with lobbyMembership := table }

def insertHostAssignment (row : LobbyHostAssignmentRow) (db : Db) : Except LobbyError Db := do
  hostAssignmentChecks row
  require (∃ lobby ∈ db.lobby.rows, lobby.id = row.lobbyId) (.constraint "fk_host_assignment_lobby")
  require (row.Open → ∀ a ∈ db.lobbyHostAssignment.rows, a.Open → a.lobbyId ≠ row.lobbyId)
    (.constraint "uq_lobby_one_current_host_assignment")
  let table ← db.lobbyHostAssignment.insert row (.constraint "lobby_host_assignment_pkey")
  pure { db with lobbyHostAssignment := table }

def insertConfiguration (row : LobbyConfigurationRow) (db : Db) : Except LobbyError Db := do
  configurationChecks row.configuration
  require (∃ lobby ∈ db.lobby.rows, lobby.id = row.lobbyId)
    (.constraint "fk_lobby_configuration_lobby")
  let table ← db.lobbyConfiguration.insert row (.constraint "lobby_configuration_pkey")
  pure { db with lobbyConfiguration := table }

def insertRound (row : GameRoundRow) (db : Db) : Except LobbyError Db := do
  roundChecks row
  require (∃ lobby ∈ db.lobby.rows, lobby.id = row.lobbyId) (.constraint "fk_game_round_lobby")
  require (∀ r ∈ db.gameRound.rows, r.lobbyId = row.lobbyId → r.sequenceNumber ≠ row.sequenceNumber)
    (.constraint "uq_game_round_lobby_sequence")
  let table ← db.gameRound.insert row (.constraint "game_round_pkey")
  pure { db with gameRound := table }

/-- `UPDATE game.lobby SET … WHERE id = …` -/
def updateLobby (lobbyId : String) (set : Table.Assignment LobbyRow.id) (db : Db) :
    Except LobbyError Db := do
  let table ← db.lobby.update (fun row => row.id = lobbyId) set fun _ new => lobbyChecks new
  pure { db with lobby := table }

/-- `UPDATE game.lobby_membership SET … WHERE lobby_id = … AND … AND left_at IS NULL` -/
def updateMembers (lobbyId : String) (p : LobbyMembershipRow → Prop) [DecidablePred p]
    (set : Table.Assignment LobbyMembershipRow.id) (db : Db) : Except LobbyError Db := do
  let table ← db.lobbyMembership.update (fun row => row.lobbyId = lobbyId ∧ p row ∧ row.Open) set
    fun _ new => membershipChecks new
  pure { db with lobbyMembership := table }

/-! ### The deferred trigger -/

/-- `hc_check_lobby_host_consistency` for one lobby -/
def hcCheckLobbyHostConsistency (lobbyId : String) (db : Db) : Except LobbyError Unit :=
  match db.lobby.find? lobbyId with
  | none => .ok ()
  | some lobby =>
    let assignments := db.lobbyHostAssignment.rows.filter fun a => a.lobbyId = lobbyId ∧ a.Open
    if lobby.closedAt = none then do
      require (∃ a ∈ assignments, assignments.length = 1 ∧ a.hostPlayerId = lobby.currentHostPlayerId)
        (.raised "23514" "open lobby must have one matching current host assignment")
      require (∃ m ∈ db.lobbyMembership.rows, m.lobbyId = lobbyId ∧
          m.playerId = lobby.currentHostPlayerId ∧ m.Open)
        (.raised "23514" "current host must be an open lobby member")
    else
      require (assignments.length ≤ 1 ∧
          ∀ a ∈ assignments, a.hostPlayerId = lobby.currentHostPlayerId)
        (.raised "23514" "closed lobby host history is inconsistent")

/-- `COMMIT` of a transaction that wrote rows of one lobby. -/
def commitLobby (lobbyId : String) (db : Db) : Except LobbyError Db := do
  hcCheckLobbyHostConsistency lobbyId db
  pure db

end HiveChameleon.Nakama.Lobby
