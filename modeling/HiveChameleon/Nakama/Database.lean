import HiveChameleon.Nakama.TerminalResult

/-!
# Nakama.Database — the `game` tables that a terminal result is written to

The rows, `CHECK` constraints, unique keys and triggers of `game.game_round` and of the tables
under it.  A `BEFORE` trigger sees the tables as the statement found them; a deferred constraint
trigger is queued with the row it fired for and runs at commit.  Columns that no statement here
reads or writes are left out.
-/

namespace HiveChameleon.Nakama

open Lib

inductive RoundStatus where
  | preparing | hiding | hunting | answerCheck | completed | aborted
deriving DecidableEq, Repr

/-- A statement that PostgreSQL refused. -/
inductive SqlError where
  | raised (sqlstate message : String)
  | constraint (name : String)
  | badValue (sqlstate : String)
deriving DecidableEq, Repr

structure GameRoundRow where
  id : String
  lobbyId : String
  sequenceNumber : ℕ
  hunterCount : ℕ
  status : RoundStatus
  winningSide : Option WinningSide
  resultSchemaVersion : String
  scoringRuleVersion : String
  canonicalResultSha256 : Option String
  startedAt : Time
  endedAt : Option Time
  abortReason : Option String
deriving DecidableEq

structure RoundParticipantRow where
  id : String
  roundId : String
  playerId : String
  hunterVolunteer : Bool
  initialRole : PlayerRole
  finalRole : PlayerRole
  characterForm : String
  sizePreset : String
  outcome : ParticipantOutcome
  survivalDurationMs : Option ℤ
  finalScore : String
  scoreBreakdown : List UInt8
  foundOrConvertedAt : Option Time
  reconnected : Bool
deriving DecidableEq

structure RoundDiscoveryRow where
  id : String
  roundId : String
  hunterPlayerId : String
  hiderPlayerId : String
  discoverySequence : ℤ
  occurredAt : Time
  causedInfectionConversion : Bool
deriving DecidableEq

structure RoundLikeRow where
  id : String
  roundId : String
  voterPlayerId : String
  targetHiderPlayerId : String
  createdAt : Time
deriving DecidableEq

/-- `game.round_result_revision_type` and `game.match_publication_request_type`. -/
inductive RevisionType where
  | initial | correction | invalidation
deriving DecidableEq, Repr

structure RoundResultRevisionRow where
  id : String
  roundId : String
  revisionNumber : ℕ
  revisionType : RevisionType
  previousRevisionId : Option String
  resultSchemaVersion : String
  scoringRuleVersion : String
  canonicalCompleteResultSha256 : Option String
  canonicalResultObjectKey : Option String
  reasonCode : Option String
deriving DecidableEq

inductive PublicationRequestState where
  | queued | batched | published | retryableFailed | cancelled
deriving DecidableEq, Repr

structure PublicationRequestRow where
  id : String
  roundId : String
  resultRevisionId : String
  requestType : RevisionType
  state : PublicationRequestState
deriving DecidableEq

structure LobbyMembershipRow where
  lobbyId : String
  playerId : String
  joinedAt : Time
  leftAt : Option Time
deriving DecidableEq

/-- The tables; players and memberships are read only. -/
structure GameDb where
  gameRound : Table GameRoundRow (·.id)
  roundParticipant : Table RoundParticipantRow (·.id)
  roundDiscovery : Table RoundDiscoveryRow (·.id)
  roundLike : Table RoundLikeRow (·.id)
  roundResultRevision : Table RoundResultRevisionRow (·.id)
  matchPublicationRequest : Table PublicationRequestRow (·.id)
  player : List String
  lobbyMembership : List LobbyMembershipRow

/-- A database in which no round was started yet. -/
def GameDb.fresh (player : List String) (lobbyMembership : List LobbyMembershipRow) : GameDb :=
  ⟨.empty, .empty, .empty, .empty, .empty, .empty, player, lobbyMembership⟩

/-! ### Deferred constraint triggers -/

inductive DeferredCheck where
  | publicationRequestRoundState (request : PublicationRequestRow)
  | terminalRoundBundle (round : GameRoundRow)
deriving DecidableEq

def hcCheckPublicationRequestRoundState (db : GameDb) (new : PublicationRequestRow) :
    Except SqlError Unit :=
  match db.gameRound.find? new.roundId with
  | none => .ok ()
  | some round =>
    require (new.state = .cancelled ∨ round.status = .completed)
      (.raised "23514" "active publication request requires a completed round at commit")

/-- The participant belonged to the round's lobby when the round started. -/
def belongedToLobby (db : GameDb) (round : GameRoundRow) (participant : RoundParticipantRow) :
    Prop :=
  ∃ membership ∈ db.lobbyMembership, membership.lobbyId = round.lobbyId ∧
    membership.playerId = participant.playerId ∧ membership.joinedAt ≤ round.startedAt ∧
    ∀ leftAt ∈ membership.leftAt, round.startedAt ≤ leftAt

instance (db : GameDb) (round : GameRoundRow) (participant : RoundParticipantRow) :
    Decidable (belongedToLobby db round participant) := by
  unfold belongedToLobby; infer_instance

def hcCheckTerminalRoundBundle (db : GameDb) (new : GameRoundRow) : Except SqlError Unit :=
  let participants := db.roundParticipant.rows.filter fun p => p.roundId = new.id
  let revisions := db.roundResultRevision.rows.filter fun r => r.roundId = new.id
  let requests := db.matchPublicationRequest.rows.filter fun r => r.roundId = new.id
  if new.status = .completed then do
    require (2 ≤ participants.length ∧
        (participants.filter fun p => p.initialRole = .hunter).length = new.hunterCount ∧
        new.hunterCount < participants.length ∧
        (revisions.filter fun r => r.revisionType = .initial).length = 1 ∧
        (requests.filter fun r => r.requestType = .initial && r.state ≠ .cancelled).length = 1)
      (.raised "23514" "completed round has an incomplete terminal bundle")
    require (∀ p ∈ participants, belongedToLobby db new p)
      (.raised "23514" "round participant did not belong to the lobby lifecycle")
  else if new.status = .aborted then
    require (participants = [] ∧ revisions = [] ∧ requests = [])
      (.raised "23514" "aborted round must not contain terminal result rows")
  else .ok ()

def DeferredCheck.check (db : GameDb) : DeferredCheck → Except SqlError Unit
  | .publicationRequestRoundState request => hcCheckPublicationRequestRoundState db request
  | .terminalRoundBundle round => hcCheckTerminalRoundBundle db round

/-- The tables inside a transaction and the deferred triggers queued so far. -/
structure GameTx where
  db : GameDb
  deferred : List DeferredCheck

/-- `COMMIT` -/
def GameTx.commit (tx : GameTx) : Except SqlError GameDb := do
  checkAll (DeferredCheck.check tx.db) tx.deferred
  pure tx.db

/-! ### Statements on `game.game_round` -/

/-- The `CHECK` constraints of a round that depend on its end. -/
def gameRoundChecks (row : GameRoundRow) : Except SqlError Unit := do
  require (1 ≤ row.hunterCount ∧ row.hunterCount ≤ 2) (.constraint "chk_game_round_hunters")
  require (row.status = .aborted →
      row.endedAt ≠ none ∧ row.abortReason ≠ none ∧ row.winningSide = none)
    (.constraint "chk_game_round_aborted")
  require (row.status = .completed →
      row.endedAt ≠ none ∧ row.winningSide ≠ none ∧ row.canonicalResultSha256 ≠ none)
    (.constraint "chk_game_round_completed")

def insertGameRound (row : GameRoundRow) (tx : GameTx) : Except SqlError GameTx := do
  gameRoundChecks row
  require (∀ r ∈ tx.db.gameRound.rows,
      ¬ (r.lobbyId = row.lobbyId ∧ r.sequenceNumber = row.sequenceNumber))
    (.constraint "uq_game_round_lobby_sequence")
  let table ← tx.db.gameRound.insert row (.constraint "game_round_pkey")
  pure { db := { tx.db with gameRound := table }
         deferred := tx.deferred ++ [.terminalRoundBundle row] }

def hcProtectTerminalRound (old : GameRoundRow) : Except SqlError Unit :=
  require (old.status ≠ .completed ∧ old.status ≠ .aborted)
    (.raised "55000" "terminal game rounds are immutable")

def updateGameRounds (p : GameRoundRow → Prop) [DecidablePred p]
    (set : Table.Assignment GameRoundRow.id) (tx : GameTx) : Except SqlError GameTx := do
  let table ← tx.db.gameRound.update p set fun old new => do
    hcProtectTerminalRound old
    gameRoundChecks new
  pure { db := { tx.db with gameRound := table }
         deferred := tx.deferred ++ (tx.db.gameRound.rows.filter fun r => p r).map fun r =>
          .terminalRoundBundle (set r) }

/-! ### Statements on the detail tables -/

/-- The `INSERT` branch of `hc_protect_round_detail`. -/
def hcProtectRoundDetail (db : GameDb) (roundId : String) : Except SqlError Unit :=
  require (∀ round ∈ db.gameRound.rows, round.id = roundId →
      round.status ≠ .completed ∧ round.status ≠ .aborted)
    (.raised "55000" "terminal round detail is immutable")

/-- `(round_id, player_id)` of a participant. -/
def hasParticipant (db : GameDb) (roundId playerId : String) : Prop :=
  ∃ p ∈ db.roundParticipant.rows, p.roundId = roundId ∧ p.playerId = playerId

instance (db : GameDb) (roundId playerId : String) : Decidable (hasParticipant db roundId playerId) :=
  inferInstanceAs (Decidable (∃ p ∈ _, _))

/-- The integer digits that `numeric(18,4)` has room for. -/
def numericDigits (score : String) : ℕ := (score.toList.takeWhile (· ≠ '.')).length

def insertRoundParticipant (G : GoRuntime) (row : RoundParticipantRow) (tx : GameTx) :
    Except SqlError GameTx := do
  require (row.characterForm = "humanoid" ∨ row.characterForm = "cube") (.badValue "22P02")
  require (row.sizePreset = "x1_0" ∨ row.sizePreset = "x1_4" ∨ row.sizePreset = "x1_7")
    (.badValue "22P02")
  require (numericDigits row.finalScore ≤ 14) (.badValue "22003")
  require (G.jsonb row.scoreBreakdown) (.badValue "22P02")
  hcProtectRoundDetail tx.db row.roundId
  require (row.characterForm = "cube" → row.sizePreset = "x1_0")
    (.constraint "chk_round_participant_cube_size")
  require (∀ duration ∈ row.survivalDurationMs, 0 ≤ duration)
    (.constraint "chk_round_participant_survival")
  require (∀ p ∈ tx.db.roundParticipant.rows,
      ¬ (p.roundId = row.roundId ∧ p.playerId = row.playerId))
    (.constraint "uq_round_participant_player")
  let table ← tx.db.roundParticipant.insert row (.constraint "round_participant_pkey")
  require (tx.db.gameRound.find? row.roundId).isSome (.constraint "fk_round_participant_round")
  require (row.playerId ∈ tx.db.player) (.constraint "fk_round_participant_player")
  pure { tx with db := { tx.db with roundParticipant := table } }

def insertRoundDiscovery (row : RoundDiscoveryRow) (tx : GameTx) : Except SqlError GameTx := do
  hcProtectRoundDetail tx.db row.roundId
  require (row.hunterPlayerId ≠ row.hiderPlayerId)
    (.constraint "chk_round_discovery_distinct_players")
  require (0 < row.discoverySequence) (.constraint "chk_round_discovery_sequence")
  require (∀ d ∈ tx.db.roundDiscovery.rows,
      ¬ (d.roundId = row.roundId ∧ d.discoverySequence = row.discoverySequence))
    (.constraint "uq_round_discovery_sequence")
  require (∀ d ∈ tx.db.roundDiscovery.rows,
      ¬ (d.roundId = row.roundId ∧ d.hiderPlayerId = row.hiderPlayerId))
    (.constraint "uq_round_discovery_hider")
  let table ← tx.db.roundDiscovery.insert row (.constraint "round_discovery_pkey")
  require (tx.db.gameRound.find? row.roundId).isSome (.constraint "fk_round_discovery_round")
  require (hasParticipant tx.db row.roundId row.hunterPlayerId)
    (.constraint "fk_round_discovery_hunter")
  require (hasParticipant tx.db row.roundId row.hiderPlayerId)
    (.constraint "fk_round_discovery_hider")
  pure { tx with db := { tx.db with roundDiscovery := table } }

def insertRoundLike (row : RoundLikeRow) (tx : GameTx) : Except SqlError GameTx := do
  hcProtectRoundDetail tx.db row.roundId
  require (row.voterPlayerId ≠ row.targetHiderPlayerId) (.constraint "chk_round_like_not_self")
  require (∀ l ∈ tx.db.roundLike.rows,
      ¬ (l.roundId = row.roundId ∧ l.voterPlayerId = row.voterPlayerId))
    (.constraint "uq_round_like_voter")
  let table ← tx.db.roundLike.insert row (.constraint "round_like_pkey")
  require (tx.db.gameRound.find? row.roundId).isSome (.constraint "fk_round_like_round")
  require (row.voterPlayerId ∈ tx.db.player) (.constraint "fk_round_like_voter")
  require (hasParticipant tx.db row.roundId row.targetHiderPlayerId)
    (.constraint "fk_round_like_target")
  pure { tx with db := { tx.db with roundLike := table } }

/-! ### Statements on revisions and publication requests -/

def hcValidateResultRevision (db : GameDb) (new : RoundResultRevisionRow) :
    Except SqlError Unit := do
  let round ← match db.gameRound.find? new.roundId with
    | none => .error (.raised "23514" "revision requires a non-aborted round")
    | some round => .ok round
  require (round.status ≠ .aborted) (.raised "23514" "revision requires a non-aborted round")
  if new.revisionType = .initial then do
    require (new.revisionNumber = 1 ∧ new.previousRevisionId = none)
      (.raised "23514" "initial revision must be revision one")
    require (new.resultSchemaVersion = round.resultSchemaVersion ∧
        new.scoringRuleVersion = round.scoringRuleVersion ∧
        new.canonicalCompleteResultSha256 = round.canonicalResultSha256)
      (.raised "23514" "initial revision must match round versions and hash")
  else
    require (∃ previousId ∈ new.previousRevisionId,
        ∃ previous ∈ db.roundResultRevision.find? previousId,
          previous.roundId = new.roundId ∧ new.revisionNumber = previous.revisionNumber + 1)
      (.raised "23514" "result revision chain must be same-round and sequential")

/-- `chk_round_result_revision_initial`, `_correction` and `_invalidation`. -/
def resultRevisionChecks (row : RoundResultRevisionRow) : Except SqlError Unit :=
  match row.revisionType with
  | .initial =>
    require (row.revisionNumber = 1 ∧ row.previousRevisionId = none ∧ row.reasonCode = none ∧
        row.canonicalCompleteResultSha256 ≠ none ∧ row.canonicalResultObjectKey ≠ none)
      (.constraint "chk_round_result_revision_initial")
  | .correction =>
    require (row.previousRevisionId ≠ none ∧ row.reasonCode ≠ none ∧
        row.canonicalCompleteResultSha256 ≠ none ∧ row.canonicalResultObjectKey ≠ none)
      (.constraint "chk_round_result_revision_correction")
  | .invalidation =>
    require (row.previousRevisionId ≠ none ∧ row.reasonCode ≠ none ∧
        row.canonicalCompleteResultSha256 = none ∧ row.canonicalResultObjectKey = none)
      (.constraint "chk_round_result_revision_invalidation")

def insertResultRevision (row : RoundResultRevisionRow) (tx : GameTx) : Except SqlError GameTx := do
  require (∀ key ∈ row.canonicalResultObjectKey, '\x00' ∉ key.toList) (.badValue "22021")
  hcValidateResultRevision tx.db row
  resultRevisionChecks row
  require (∀ r ∈ tx.db.roundResultRevision.rows,
      ¬ (row.previousRevisionId ≠ none ∧ r.previousRevisionId = row.previousRevisionId))
    (.constraint "round_result_revision_previous_revision_id_key")
  require (∀ r ∈ tx.db.roundResultRevision.rows,
      ¬ (r.roundId = row.roundId ∧ r.revisionNumber = row.revisionNumber))
    (.constraint "uq_round_result_revision_number")
  let table ← tx.db.roundResultRevision.insert row (.constraint "round_result_revision_pkey")
  pure { tx with db := { tx.db with roundResultRevision := table } }

/-- The `INSERT` branch of `hc_validate_publication_request`. -/
def hcValidatePublicationRequest (db : GameDb) (new : PublicationRequestRow) :
    Except SqlError Unit :=
  require (∃ revision ∈ db.roundResultRevision.find? new.resultRevisionId,
      revision.roundId = new.roundId ∧ revision.revisionType = new.requestType)
    (.raised "23514" "publication request must match its round and revision type")

def insertPublicationRequest (row : PublicationRequestRow) (tx : GameTx) :
    Except SqlError GameTx := do
  hcValidatePublicationRequest tx.db row
  require (∀ r ∈ tx.db.matchPublicationRequest.rows, r.resultRevisionId ≠ row.resultRevisionId)
    (.constraint "match_publication_request_result_revision_id_key")
  require (∀ r ∈ tx.db.matchPublicationRequest.rows,
      ¬ (row.requestType = .initial ∧ row.state ≠ .cancelled ∧ r.roundId = row.roundId ∧
        r.requestType = .initial ∧ r.state ≠ .cancelled))
    (.constraint "uq_match_publication_one_initial_round")
  let table ← tx.db.matchPublicationRequest.insert row
    (.constraint "match_publication_request_pkey")
  pure { db := { tx.db with matchPublicationRequest := table }
         deferred := tx.deferred ++ [.publicationRequestRoundState row] }

end HiveChameleon.Nakama
