import HiveChameleon.Nakama.LobbyGuarantees
import HiveChameleon.Nakama.LobbyVersions
import HiveChameleon.Nakama.MatchLoop

/-!
# Nakama.LobbyMatch — the match of a lobby

`persistentLobbyState`, `applyLiveLobbyState`, `MatchInit`, `MatchSignal` and the departures of
`lobby_match.go`.  A match answers from the snapshot that it loaded last and writes through the
store; beside it, other writers change the same tables: `Create` and `Join`, a second match of the
lobby, and a command of this match whose commit was not acknowledged.
-/

namespace HiveChameleon.Nakama.Lobby

open Lib

def grpcUnavailable : ℕ := 14

/-! ### The state of a match -/

/-- The fields of a `persistentLobbyState` that its signals read; `nominations` are the keys of the
map, all of which map to true. -/
structure LobbyMatch where
  lobbyId : String
  snapshot : LobbySnapshot
  nominations : List String
  pendingLeaves : GoMap String HostAssignmentReason
  round : Option MatchRound
  casualRound : Option CasualRoundState

/-- The loop of `applyLiveLobbyState`: the nominees who are members, each once. -/
def liveNominees (memberIds : List String) : List String → List String → List String
  | nominees, [] => nominees
  | nominees, playerId :: rest =>
    if playerId ∉ memberIds ∨ playerId ∈ nominees then liveNominees memberIds nominees rest
    else liveNominees memberIds (nominees ++ [playerId]) rest

def LobbySnapshot.live (snapshot : LobbySnapshot) : List String :=
  liveNominees (snapshot.members.map (·.playerId)) [] snapshot.hunterNomineeIds

def LobbyMatch.applyLiveLobbyState (m : LobbyMatch) (snapshot : LobbySnapshot) : LobbyMatch :=
  { m with
    nominations := snapshot.live
    snapshot := { snapshot with hunterNomineeIds := snapshot.live.insertionSort (· ≤ ·) } }

/-- `MatchInit`; `ActiveRound` reads `round` at a later moment than the snapshot. -/
def matchInit (lobbyId : String) (round : Option MatchRound) (db : Db) : Option LobbyMatch :=
  match loadLobbySnapshot lobbyId db with
  | .error _ => none
  | .ok snapshot =>
    if snapshot.closed = true then none
    else
      let m : LobbyMatch := ⟨lobbyId, snapshot, [], ∅, round, none⟩
      some (m.applyLiveLobbyState snapshot)

/-! ### Signals -/

inductive LobbySignal where
  | terminateDuplicate
  | sync
  | leave (playerId : String) (leaveReason : HostAssignmentReason)
  | nominateHunter (playerId : String) (nomination : Option NominateHunterRequest)
  | updateConfiguration (playerId : String) (request : Option UpdateLobbyConfigurationRequest)
  | start (playerId : String) (request : Option StartLobbyRequest)
  | other (type : String)

/-- What a call takes from the clock and from the random source; `newUUIDV7` makes the round's id. -/
structure Draws where
  assignmentId : String
  now : Time
  roundId : { id : String // canonicalUUIDV7 id = true }
  random : Random

structure SignalError where
  code : ℕ
  message : String
deriving DecidableEq, Repr

def encodeLobbySignalError : LobbyError → SignalError
  | .problem code message => ⟨code, message⟩
  | _ => ⟨grpcUnavailable, "lobby service unavailable"⟩

structure LobbyRPCResponse where
  lobby : LobbySnapshot
  startAccepted : Bool
  round : Option RoundPublicSnapshot
deriving DecidableEq, Repr

/-- The match after a signal, the answer and the database. -/
structure Answered where
  lobbyMatch : Option LobbyMatch
  answer : Except SignalError LobbyRPCResponse
  db : Db

namespace LobbyMatch

section

variable (m : LobbyMatch) (draws : Draws) (db : Db)

def refuse (error : LobbyError) : Answered := ⟨some m, .error (encodeLobbySignalError error), db⟩

/-- The snapshot of the store becomes the one of the match, and the answer. -/
def answerLive (snapshot : LobbySnapshot) : Answered :=
  ⟨some (m.applyLiveLobbyState snapshot), .ok ⟨(m.applyLiveLobbyState snapshot).snapshot, false, none⟩, db⟩

def signalSync : Answered :=
  match loadLobbySnapshot m.lobbyId db with
  | .error e => m.refuse db e
  | .ok snapshot => m.answerLive db snapshot

def signalLeave (playerId : String) (leaveReason : HostAssignmentReason) : Answered :=
  if playerId = "" then m.refuse db (.problem grpcInvalidArgument "leaving player is required")
  else
    let reason := if leaveReason = .hostDisconnected then .hostDisconnected else .hostLeft
    match leave draws.assignmentId draws.now m.lobbyId [playerId] reason db with
    | .error e => m.refuse db e
    | .ok (snapshot, _, db) => m.answerLive db snapshot

def signalNominateHunter (playerId : String) (nomination : Option NominateHunterRequest) : Answered :=
  match nomination with
  | none => m.refuse db (.problem grpcInvalidArgument "invalid hunter nomination signal")
  | some request =>
    if request.lobbyId ≠ m.lobbyId then
      m.refuse db (.problem grpcInvalidArgument "invalid hunter nomination signal")
    else if m.round.isSome = true then
      m.refuse db
        (.problem grpcFailedPrecondition "hunter nomination is closed after round start")
    else if decide (playerId ∈ m.nominations) = request.nominated then
      if request.expectedLobbyVersion ≠ m.snapshot.rowVersion then
        m.refuse db (.problem grpcAborted "lobby version changed; refresh state and retry")
      else ⟨some m, .ok ⟨m.snapshot, false, none⟩, db⟩
    else
      match recordNominationChange playerId request db with
      | .error e => m.refuse db e
      | .ok (snapshot, db) => m.answerLive db snapshot

def signalUpdateConfiguration (playerId : String)
    (request : Option UpdateLobbyConfigurationRequest) : Answered :=
  match request with
  | none => m.refuse db (.problem grpcInvalidArgument "invalid lobby configuration signal")
  | some request =>
    if request.lobbyId ≠ m.lobbyId then
      m.refuse db (.problem grpcInvalidArgument "invalid lobby configuration signal")
    else
      match Lobby.updateConfiguration draws.now playerId request db with
      | .error e => m.refuse db e
      | .ok (snapshot, db) => m.answerLive db snapshot

/-- The `roundSnapshot` of `StartRound`; `before` is the database that it read. -/
def startedRound (before : Db) (round : RoundSnapshot) : MatchRound where
  toRoundSnapshot := round
  status := .preparing
  phaseDeadline := none
  hidersTotal := round.roleAssignments.length -
    ((before.lobbyConfiguration.find? m.lobbyId).elim 0 (·.configuration.hunterCount))
  hidersRemaining := round.roleAssignments.length -
    ((before.lobbyConfiguration.find? m.lobbyId).elim 0 (·.configuration.hunterCount))
  discoveredHiderPlayerIds := []
  winningSide := .other ""
  completionReason := .unset
  sequenceNumber := nextSequenceNumber m.lobbyId before

/-- The match runs a round that the store has committed. -/
def begin (round : MatchRound) (casualRound : CasualRoundState) : LobbyMatch :=
  { m with
    round := some { round with toPublishedRound := casualRound.apply round.toPublishedRound }
    casualRound := some casualRound }

def signalStart (playerId : String) (request : Option StartLobbyRequest) : Answered :=
  match request with
  | none => m.refuse db (.problem grpcInvalidArgument "invalid lobby start signal")
  | some request =>
    if request.lobbyId ≠ m.lobbyId then
      m.refuse db (.problem grpcInvalidArgument "invalid lobby start signal")
    else if m.round.isSome = true then
      m.refuse db (.problem grpcFailedPrecondition "lobby already has an active round")
    else if m.snapshot.configuration.mode ≠ .casual then
      m.refuse db (.problem grpcFailedPrecondition
        "only Casual mode is available in the current authoritative runtime")
    else
      match startRound draws.roundId.1 draws.now draws.random playerId request db with
      | .error e => m.refuse db e
      | .ok (snapshot, round, committed) =>
        match newCasualRoundState round with
        | .error _ =>
          m.refuse committed (.text "authoritative Casual round initialization failed")
        | .ok casualRound =>
          let next := (m.begin (m.startedRound db round) casualRound).applyLiveLobbyState snapshot
          ⟨some next, .ok ⟨next.snapshot, true, next.round.map MatchRound.publicSnapshot⟩, committed⟩

/-- `MatchSignal` -/
def matchSignal : LobbySignal → Answered
  | .terminateDuplicate => ⟨none, .ok ⟨m.snapshot, false, none⟩, db⟩
  | .sync => m.signalSync db
  | .leave playerId leaveReason => m.signalLeave draws db playerId leaveReason
  | .nominateHunter playerId nomination => m.signalNominateHunter db playerId nomination
  | .updateConfiguration playerId request => m.signalUpdateConfiguration draws db playerId request
  | .start playerId request => m.signalStart draws db playerId request
  | .other _ => m.refuse db (.problem grpcInvalidArgument "unknown lobby match signal")

/-! ### Departures and the loop -/

/-- `refreshAndBroadcast` -/
def refresh : LobbyMatch :=
  match loadLobbySnapshot m.lobbyId db with
  | .error _ => m
  | .ok snapshot => m.applyLiveLobbyState snapshot

def hostReason : HostAssignmentReason :=
  if m.pendingLeaves.lookup m.snapshot.currentHostPlayerId = some .hostDisconnected then
    .hostDisconnected
  else .hostLeft

/-- `flushPendingLeaves`: whether the lobby is closed, the match and the database. -/
def flushPendingLeaves : Except LobbyError (Bool × LobbyMatch × Db) :=
  if m.pendingLeaves.keys = [] then .ok (m.snapshot.closed, m, db)
  else do
    let (snapshot, closed, db) ←
      leave draws.assignmentId draws.now m.lobbyId m.pendingLeaves.keys m.hostReason db
    pure (closed, { m with pendingLeaves := ∅ }.applyLiveLobbyState snapshot, db)

/-- The departures that `MatchLeave` notes before it flushes them. -/
def noteLeaves (departed : List (String × HostAssignmentReason)) : LobbyMatch :=
  { m with
    pendingLeaves := departed.foldl (fun pending leave => pending.insert leave.1 leave.2)
      m.pendingLeaves }

/-- `MatchLeave`: a match of a closed lobby ends, and an error leaves the departures noted. -/
def matchLeave (departed : List (String × HostAssignmentReason)) : Option LobbyMatch × Db :=
  match (m.noteLeaves departed).flushPendingLeaves draws db with
  | .error _ => (some (m.noteLeaves departed), db)
  | .ok (closed, m, db) => (if closed = true then none else some m, db)

/-- The part of `MatchLoop` that runs a round. -/
def runRound (presences : List LobbyPresence) (messages : List MatchData) : LobbyMatch :=
  match m.round, m.casualRound with
  | some round, some casualRound =>
    let handled := ({ presences, round, casualRound } : MatchState).matchLoop draws.now messages
    { m with round := some handled.state.round, casualRound := some handled.state.casualRound }
  | _, _ => m

/-- `MatchLoop`: departures are tried again before the round goes on. -/
def matchLoop (presences : List LobbyPresence) (messages : List MatchData) : Option LobbyMatch × Db :=
  if m.snapshot.closed = true then (none, db)
  else
    match m.flushPendingLeaves draws db with
    | .error _ => (some m, db)
    | .ok (closed, m, db) =>
      (if closed = true then none else some (m.runRound draws presences messages), db)

end

end LobbyMatch

/-! ### The match beside other writers -/

structure LobbySystem where
  db : Db
  lobbyMatch : Option LobbyMatch

inductive MatchLabel where
  | other (event : LobbyEvent)
  | init (lobbyId : String) (round : Option MatchRound)
  | matchJoin
  | matchLeave (draws : Draws) (departed : List (String × HostAssignmentReason))
  | matchLoop (draws : Draws) (presences : List LobbyPresence) (messages : List MatchData)
  | signal (draws : Draws) (signal : LobbySignal)

/-- What a call of the match handler does; a call needs a match, and `init` needs that there is
none. -/
def LobbySystem.perform (bcrypt : PasswordCheck) (S : LobbySystem) : MatchLabel → Option LobbySystem
  | .other event => (Lobby.perform bcrypt S.db event).map fun db => ⟨db, S.lobbyMatch⟩
  | .init lobbyId round =>
    match S.lobbyMatch with
    | some _ => none
    | none => (matchInit lobbyId round S.db).map fun m => ⟨S.db, some m⟩
  | .matchJoin => S.lobbyMatch.map fun m => ⟨S.db, some (m.refresh S.db)⟩
  | .matchLeave draws departed => S.lobbyMatch.map fun m =>
    let left := m.matchLeave draws S.db departed
    ⟨left.2, left.1⟩
  | .matchLoop draws presences messages => S.lobbyMatch.map fun m =>
    let looped := m.matchLoop draws S.db presences messages
    ⟨looped.2, looped.1⟩
  | .signal draws signal => S.lobbyMatch.map fun m =>
    let answered := m.matchSignal draws S.db signal
    ⟨answered.db, answered.lobbyMatch⟩

def MatchStep (bcrypt : PasswordCheck) (S : LobbySystem) (label : MatchLabel) (S' : LobbySystem) :
    Prop := S.perform bcrypt label = some S'

def noMatch (versions : List (String × MapVersionStatus)) : LobbySystem := ⟨noLobbies versions, none⟩

end HiveChameleon.Nakama.Lobby
