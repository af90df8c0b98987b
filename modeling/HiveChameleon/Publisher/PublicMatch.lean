import HiveChameleon.Gateway.SchemaAcceptance
import HiveChameleon.Nakama.Commit

/-!
# Publisher.PublicMatch — the public match result of a stored round

The candidate query of `postgres-publication-store.ts` on the tables that the match server writes,
`candidateFromRow`, and `createEvent` of `batch-builder.ts`, as JSON values.  The query reads one
locked request here; which requests it selects and in which order is not part of it.
-/

namespace HiveChameleon.Publisher.PublicMatch

open Gateway Lib Nakama

/-! ### `Date.prototype.toISOString` -/

/-- The last `width` decimal digits. -/
def padDigits (width n : ℕ) : List Char :=
  (List.range width).reverse.map fun i => Nat.digitChar (n / 10 ^ i % 10)

/-- The year, month and day of a number of days after the first of January 1970. -/
def civilFromDays (days : ℤ) : ℤ × ℕ × ℕ :=
  -- years begin in March, and 400 of them are an era of 146097 days
  let shifted := days + 719468
  let dayOfEra := (shifted % 146097).toNat
  let yearOfEra := (dayOfEra - dayOfEra / 1460 + dayOfEra / 36524 - dayOfEra / 146096) / 365
  let dayOfYear := dayOfEra - (365 * yearOfEra + yearOfEra / 4 - yearOfEra / 100)
  let monthFromMarch := (5 * dayOfYear + 2) / 153
  let day := dayOfYear - (153 * monthFromMarch + 2) / 5 + 1
  let month := if monthFromMarch < 10 then monthFromMarch + 3 else monthFromMarch - 9
  (yearOfEra + shifted / 146097 * 400 + (if month ≤ 2 then 1 else 0), month, day)

def millisecondsPerDay : ℤ := 86400000

/-- The year of an instant, in milliseconds after the epoch. -/
def isoYear (ms : ℤ) : ℤ := (civilFromDays (ms / millisecondsPerDay)).1

/-- Four digits, or a sign and six digits. -/
def yearText (year : ℤ) : List Char :=
  if 0 ≤ year ∧ year ≤ 9999 then padDigits 4 year.toNat
  else (if year < 0 then '-' else '+') :: padDigits 6 year.natAbs

def toISOString (ms : ℤ) : String :=
  let (year, month, day) := civilFromDays (ms / millisecondsPerDay)
  let inDay := (ms % millisecondsPerDay).toNat
  String.ofList (yearText year ++ ('-' :: padDigits 2 month) ++ ('-' :: padDigits 2 day) ++
    ('T' :: padDigits 2 (inDay / 3600000)) ++ (':' :: padDigits 2 (inDay / 60000 % 60)) ++
    (':' :: padDigits 2 (inDay / 1000 % 60)) ++ ('.' :: padDigits 3 (inDay % 1000)) ++ ['Z'])

example : toISOString 1767225600000 = "2026-01-01T00:00:00.000Z" := by decide +kernel

example : toISOString 951827696007 = "2000-02-29T12:34:56.007Z" := by decide +kernel

/-! ### The candidate query -/

inductive GameMode where
  | casual | infection
deriving DecidableEq, Repr

def GameMode.text : GameMode → String
  | casual => "casual"
  | infection => "infection"

/-- The columns of a round's header, map and tournament that the query reads. -/
structure RoundColumns where
  mode : GameMode
  mapId : String
  mapVersionId : String
  mapVersion : String
  mapContentSha256 : String
  gameServerBuildVersion : String
  protocolVersion : String
  tournamentId : Option String
deriving DecidableEq

/-- What the publisher reads: the tables of the match server, the columns of a round and the name of a
player. -/
structure PublisherDb where
  game : GameDb
  columns : String → RoundColumns
  hiveUsername : String → String
  /-- The `Date` that the driver makes of a stored instant. -/
  date : Time → ℤ

structure CandidateRow where
  publicationRequestId : String
  resultRevisionId : String
  roundId : String
  completedAt : ℤ
  columns : RoundColumns
  resultSchemaVersion : String
  scoringRuleVersion : String
  winningSide : String
  winnerAccounts : Json
  participants : Json
  discoveries : Json
  survivors : Json
  likes : Json
  resultSha256 : String

def roleText : PlayerRole → String
  | .hider => "hider"
  | .hunter => "hunter"
  | .other text => text

/-- The `CASE` on `participant.outcome`. -/
def outcomeText : ParticipantOutcome → String
  | .hiderSurvived => "survived"
  | .hiderFound => "found"
  | .hiderConverted => "converted"
  | .hunterWin => "hunter_win"
  | .hunterLoss => "hunter_loss"
  | .other text => text

def winningSideText : WinningSide → String
  | .hiders => "hiders"
  | .hunters => "hunters"
  | .none => "none"
  | .other text => text

section

variable (db : PublisherDb) (roundId : String)

/-- The participants of a round, by name. -/
def players : List RoundParticipantRow :=
  (db.game.roundParticipant.rows.filter fun p => p.roundId = roundId).insertionSort fun p q =>
    db.hiveUsername p.playerId ≤ db.hiveUsername q.playerId

def participantObject (p : RoundParticipantRow) : Json := .object [
  ("account", .string (db.hiveUsername p.playerId)),
  ("initial_role", .string (roleText p.initialRole)),
  ("final_role", .string (roleText p.finalRole)),
  ("outcome", .string (outcomeText p.outcome)),
  ("score", .string p.finalScore)]

/-- The names of the participants with one of the outcomes. -/
def accountsWith (outcomes : List ParticipantOutcome) : List String :=
  ((players db roundId).filter fun p => outcomes.contains p.outcome).map fun p =>
    db.hiveUsername p.playerId

def roundDiscoveries : List RoundDiscoveryRow :=
  (db.game.roundDiscovery.rows.filter fun d => d.roundId = roundId).insertionSort fun d e =>
    d.discoverySequence ≤ e.discoverySequence

def discoveryObject (d : RoundDiscoveryRow) : Json := .object [
  ("hunter", .string (db.hiveUsername d.hunterPlayerId)),
  ("hider", .string (db.hiveUsername d.hiderPlayerId))]

/-- The names of the liked hiders, one for each like. -/
def likedAccounts : List String :=
  (db.game.roundLike.rows.filter fun l => l.roundId = roundId).map fun l =>
    db.hiveUsername l.targetHiderPlayerId

def likeObject (account : String) : Json := .object [
  ("account", .string account),
  ("received", .number (toString ((likedAccounts db roundId).count account)))]

def likeAccounts : List String := (likedAccounts db roundId).dedup.insertionSort (· ≤ ·)

end

/-- The row of a selected request. -/
def candidateRow (db : PublisherDb) (request : PublicationRequestRow) : Option CandidateRow := do
  let round ← db.game.gameRound.find? request.roundId
  let revision ← db.game.roundResultRevision.find? request.resultRevisionId
  if request.requestType = .initial ∧
      (request.state = .queued ∨ request.state = .retryableFailed) ∧ round.status = .completed then
    -- `chk_game_round_completed` and `chk_round_result_revision_initial`: none of these is NULL
    let endedAt ← round.endedAt
    let winningSide ← round.winningSide
    let resultSha256 ← revision.canonicalCompleteResultSha256
    pure {
      publicationRequestId := request.id
      resultRevisionId := request.resultRevisionId
      roundId := round.id
      completedAt := db.date endedAt
      columns := db.columns round.id
      resultSchemaVersion := revision.resultSchemaVersion
      scoringRuleVersion := revision.scoringRuleVersion
      winningSide := winningSideText winningSide
      winnerAccounts :=
        .array ((accountsWith db round.id [.hunterWin, .hiderSurvived]).map Json.string)
      participants := .array ((players db round.id).map (participantObject db))
      discoveries := .array ((roundDiscoveries db round.id).map (discoveryObject db))
      survivors := .array ((accountsWith db round.id [.hiderSurvived]).map Json.string)
      likes := .array ((likeAccounts db round.id).map (likeObject db round.id))
      resultSha256 := resultSha256 }
  else none

/-! ### `candidateFromRow` and `createEvent` -/

structure MatchPublisherError where
  code : String
  message : String
deriving DecidableEq, Repr

structure MatchPublicationCandidate where
  publicationRequestId : String
  resultRevisionId : String
  roundId : String
  completedAt : String
  publicResult : Json

/-- The object that is checked. -/
def CandidateRow.base (row : CandidateRow) : Json := .object ([
  ("round_id", .string row.roundId),
  ("completed_at", .string (toISOString row.completedAt)),
  ("context", .string (if row.columns.tournamentId = none then "normal" else "tournament"))] ++
  row.columns.tournamentId.toList.map (fun id => ("tournament_id", .string id)) ++ [
  ("mode", .string row.columns.mode.text),
  ("result_schema", .string row.resultSchemaVersion),
  ("scoring_rules", .string row.scoringRuleVersion),
  ("map", .object [
    ("map_id", .string row.columns.mapId),
    ("version_id", .string row.columns.mapVersionId),
    ("version", .string row.columns.mapVersion),
    ("content_sha256", .string row.columns.mapContentSha256)]),
  ("server", .object [
    ("build", .string row.columns.gameServerBuildVersion),
    ("protocol", .string row.columns.protocolVersion)]),
  ("winning_side", .string row.winningSide),
  ("winner_accounts", row.winnerAccounts),
  ("participants", row.participants),
  ("discoveries", row.discoveries),
  ("survivors", row.survivors),
  ("likes", row.likes),
  ("result_sha256", .string row.resultSha256)])

def candidateFromRow (J : JsRuntime) (row : CandidateRow) :
    Except MatchPublisherError MatchPublicationCandidate :=
  match (EventSchema.matchResultSchema J).parse row.base with
  | none => .error ⟨"invalid_candidate",
      "Committed terminal result cannot be represented by the public match contract"⟩
  | some data => .ok
    { publicationRequestId := row.publicationRequestId
      resultRevisionId := row.resultRevisionId
      roundId := row.roundId
      completedAt := toISOString row.completedAt
      publicResult := data }

def createEvent (candidates : List MatchPublicationCandidate)
    (publisher eventId batchId occurredAt periodStart periodEnd : String) : Json := .object [
  ("v", .number "1"),
  ("type", .string "match_results_batch"),
  ("event_version", .number "1"),
  ("event_id", .string eventId),
  ("occurred_at", .string occurredAt),
  ("data", .object [
    ("batch_id", .string batchId),
    ("period_start", .string periodStart),
    ("period_end", .string periodEnd),
    ("publisher", .string publisher),
    ("result_count", .number (toString candidates.length)),
    ("results", .array (candidates.map (·.publicResult)))])]

end HiveChameleon.Publisher.PublicMatch
