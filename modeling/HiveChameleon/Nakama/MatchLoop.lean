import HiveChameleon.Nakama.RoundGuarantees

/-!
# Nakama.MatchLoop — what the match handler sends

`PlayerState` and `roundSnapshot.Public`, the broadcasts of `lobby_match.go` that carry a round, and
`MatchLoop`, `MatchJoin`, `MatchLeave` and the `sync` signal as far as they read it.  A message is a value
before its encoding; the lobby snapshots that are sent beside them do not read the round.
-/

namespace HiveChameleon.Nakama

/-! ### `PlayerState` and `Public` -/

structure RoundPlayerState where
  roundId : String
  playerId : String
  role : PlayerRole
  status : String
  hidingSlot : ℤ
  shellsRemaining : ℤ
  reloadUntil : Option Time
deriving DecidableEq, Repr

def CasualRoundState.playerState (s : CasualRoundState) (playerId : String) :
    Option RoundPlayerState :=
  match s.assignments.lookup playerId with
  | none => none
  | some assignment =>
    let state : RoundPlayerState := {
      roundId := s.roundId
      playerId := playerId
      role := assignment.role
      status := if playerId ∈ s.foundHiders then "found" else "active"
      hidingSlot := assignment.hidingSlot
      shellsRemaining := 0
      reloadUntil := none }
    match s.hunters.lookup playerId with
    | none => some state
    | some hunter => some { state with
        shellsRemaining := hunter.shellsRemaining
        reloadUntil := if hunter.reloadUntil = 0 then none else some hunter.reloadUntil }

/-- A `roundSnapshot` with the number that only its public form carries. -/
structure MatchRound extends PublishedRound where
  sequenceNumber : ℤ

structure RoundPublicSnapshot where
  id : String
  sequenceNumber : ℤ
  mode : String
  status : Phase
  startedAt : Time
  phaseDeadline : Option Time
  targetSlotCount : ℤ
  hidersTotal : ℤ
  hidersRemaining : ℤ
  discoveredHiderPlayerIds : List String
  winningSide : WinningSide
  completionReason : CompletionReason
deriving DecidableEq, Repr

/-- `Public` -/
def MatchRound.publicSnapshot (r : MatchRound) : RoundPublicSnapshot where
  id := r.id
  sequenceNumber := r.sequenceNumber
  mode := r.mode
  status := r.status
  startedAt := r.startedAt
  phaseDeadline := r.phaseDeadline
  targetSlotCount := r.targetSlotCount
  hidersTotal := r.hidersTotal
  hidersRemaining := r.hidersRemaining
  discoveredHiderPlayerIds := r.discoveredHiderPlayerIds
  winningSide := r.winningSide
  completionReason := r.completionReason

/-! ### Broadcasts -/

/-- A session of a player in the match. -/
structure LobbyPresence where
  sessionId : String
  playerId : String
deriving DecidableEq, Repr

/-- The messages with the operation codes of a round. -/
inductive RoundMessage where
  | roundPhaseChanged (round : RoundPublicSnapshot)
  | roundRoleAssigned (assignment : RoundRoleAssignment)
  | roundDiscovery (discovery : RoundDiscoverySnapshot)
  | roundPlayerState (state : RoundPlayerState)
  | hunterFireResult (result : HunterFireResult)
deriving DecidableEq, Repr

/-- A message and the presences that it is sent to; `none` is everybody in the match. -/
structure Sent where
  recipients : Option (List LobbyPresence)
  message : RoundMessage
deriving DecidableEq, Repr

/-- The presences and the round of a `persistentLobbyState`. -/
structure MatchState where
  presences : List LobbyPresence
  round : MatchRound
  casualRound : CasualRoundState

namespace MatchState

section

variable (m : MatchState)

def presencesForPlayer (playerId : String) : List LobbyPresence :=
  m.presences.filter fun tracked => tracked.playerId = playerId

/-- A message to the presences of a player, if there are any. -/
def sendToPlayer (playerId : String) (message : RoundMessage) : List Sent :=
  if m.presencesForPlayer playerId = [] then [] else [⟨some (m.presencesForPlayer playerId), message⟩]

def broadcastRoundPlayerState (playerId : String) : List Sent :=
  match m.casualRound.playerState playerId with
  | none => []
  | some playerState => m.sendToPlayer playerId (.roundPlayerState playerState)

/-- `sortedPlayerIDs` of the assignments -/
def sortedPlayerIds : List String := m.casualRound.assignments.keys.insertionSort (· ≤ ·)

def broadcastRoundState : List Sent :=
  [⟨none, .roundPhaseChanged m.round.publicSnapshot⟩] ++
    m.round.roleAssignments.flatMap (fun assignment =>
      m.sendToPlayer assignment.playerId (.roundRoleAssigned assignment)) ++
    m.sortedPlayerIds.flatMap m.broadcastRoundPlayerState

/-- `state.CasualRound.Apply(state.Round)` -/
def applyRound : MatchState :=
  { m with round := { m.round with toPublishedRound := m.casualRound.apply m.round.toPublishedRound } }

end

end MatchState

/-! ### The match handler -/

/-- What `decodeHunterFireCommand` makes of a message. -/
inductive Decoded where
  | otherOpcode
  | invalid
  | fire (command : HunterFireCommand)
deriving DecidableEq, Repr

structure MatchData where
  sessionId : String
  decoded : Decoded
deriving DecidableEq, Repr

/-- The state after a part of a call, what was sent, and whom each `HandleFire` of it hit. -/
structure Handled where
  state : MatchState
  sent : List Sent
  hits : List (Bool × String)

namespace MatchState

/-- The answer to a command that cannot be decoded. -/
def invalidCommandResult (m : MatchState) (playerId : String) : HunterFireResult :=
  let result : HunterFireResult := {
    roundId := m.round.id
    commandId := ""
    accepted := false
    reason := .invalidCommand
    aimSlot := 0
    hit := false
    hiderPlayerId := ""
    shellsRemaining := 0
    reloadUntil := none
    roundIsTerminal := m.casualRound.phase = .terminal }
  match m.casualRound.playerState playerId with
  | none => result
  | some playerState => { result with
      shellsRemaining := playerState.shellsRemaining, reloadUntil := playerState.reloadUntil }

/-- The messages after a `HandleFire`, and the round of a discovery applied. -/
def afterFire (m : MatchState) (tracked : LobbyPresence)
    (fired : CasualRoundState × HunterFireResult × Option RoundDiscoverySnapshot) : Handled :=
  let m := { m with casualRound := fired.1 }
  let sent := ⟨some [tracked], .hunterFireResult fired.2.1⟩ ::
    m.broadcastRoundPlayerState tracked.playerId
  let hits := [(fired.2.1.hit, fired.2.1.hiderPlayerId)]
  match fired.2.2 with
  | none => ⟨m, sent, hits⟩
  | some discovery =>
    let m := m.applyRound
    ⟨m, sent ++ [⟨none, .roundDiscovery discovery⟩] ++ m.broadcastRoundState, hits⟩

/-- One iteration of the loop over the messages. -/
def handleMessage (m : MatchState) (now : Time) (message : MatchData) : Handled :=
  match message.decoded with
  | .otherOpcode => ⟨m, [], []⟩
  | .invalid =>
    match m.presences.find? fun tracked => tracked.sessionId = message.sessionId with
    | none => ⟨m, [], []⟩
    | some tracked =>
      ⟨m, [⟨some [tracked], .hunterFireResult (m.invalidCommandResult tracked.playerId)⟩], []⟩
  | .fire command =>
    match m.presences.find? fun tracked => tracked.sessionId = message.sessionId with
    | none => ⟨m, [], []⟩
    | some tracked =>
      m.afterFire tracked (m.casualRound.handleFire tracked.playerId command now)

def handleMessages (now : Time) : MatchState → List MatchData → Handled
  | m, [] => ⟨m, [], []⟩
  | m, message :: messages =>
    let first := m.handleMessage now message
    let rest := handleMessages now first.state messages
    ⟨rest.state, first.sent ++ rest.sent, first.hits ++ rest.hits⟩

/-- The `Advance` of a tick. -/
def tick (m : MatchState) (now : Time) : Handled :=
  let advanced := m.casualRound.advance now
  let m := { m with casualRound := advanced.1 }
  if advanced.2 = [] then ⟨m, [], []⟩
  else
    let m := m.applyRound
    ⟨m, m.broadcastRoundState, []⟩

def matchLoop (m : MatchState) (now : Time) (messages : List MatchData) : Handled :=
  let ticked := m.tick now
  let rest := handleMessages now ticked.state messages
  ⟨rest.state, ticked.sent ++ rest.sent, rest.hits⟩

end MatchState

/-- The calls of the match handler that send a round. -/
inductive MatchCall where
  | matchLoop (now : Time) (messages : List MatchData)
  | matchJoin (presences : List LobbyPresence)
  | matchLeave (sessionIds : List String)
  | sync
deriving DecidableEq, Repr

namespace MatchState

/-- A joining presence takes the place of one with its session. -/
def join (m : MatchState) (presences : List LobbyPresence) : MatchState :=
  { m with presences := presences.foldl (fun tracked presence =>
      presence :: tracked.filter fun other => other.sessionId ≠ presence.sessionId) m.presences }

def handle (m : MatchState) : MatchCall → Handled
  | .matchLoop now messages => m.matchLoop now messages
  | .matchJoin presences => ⟨m.join presences, (m.join presences).broadcastRoundState, []⟩
  | .matchLeave sessionIds =>
    ⟨{ m with presences := m.presences.filter fun tracked => tracked.sessionId ∉ sessionIds }, [], []⟩
  | .sync => ⟨m, m.broadcastRoundState, []⟩

/-- Any sequence of calls. -/
def handleAll : MatchState → List MatchCall → Handled
  | m, [] => ⟨m, [], []⟩
  | m, call :: calls =>
    let first := m.handle call
    let rest := handleAll first.state calls
    ⟨rest.state, first.sent ++ rest.sent, first.hits ++ rest.hits⟩

end MatchState

end HiveChameleon.Nakama
