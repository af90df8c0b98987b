import HiveChameleon.Nakama.Database

/-!
# Nakama.Commit — `commitTerminalResult`

The terminal boundary of `runtime/nakama/terminal_result.go` on the tables it writes, together with
the calls that bring a round there: `StartRound`'s round header and `UpdateRoundPhase`.  A
call that fails rolls its transaction back.
-/

namespace HiveChameleon.Nakama

open Lib

/-- The error of a call: a text, or a refused statement under the text that wraps it. -/
inductive CallError where
  | text (message : String)
  | wrapped (context : String) (cause : SqlError)
deriving DecidableEq, Repr

/-- `fmt.Errorf("<context>: %w", err)` -/
def wrap {α : Type} (context : String) : Except SqlError α → Except CallError α
  | .ok a => .ok a
  | .error cause => .error (.wrapped context cause)

theorem wrap_eq_ok {α : Type} {context : String} {x : Except SqlError α} {a : α} :
    wrap context x = .ok a ↔ x = .ok a := by
  cases x <;> simp [wrap]

inductive TerminalResultCommitOutcome where
  | committed | replayed
deriving DecidableEq, Repr

def RoundStatus.text : RoundStatus → String
  | .preparing => "preparing"
  | .hiding => "hiding"
  | .hunting => "hunting"
  | .answerCheck => "answer_check"
  | .completed => "completed"
  | .aborted => "aborted"

/-! ### The rows of a terminal result -/

def participantRow (roundId : String) (p : TerminalParticipant) : RoundParticipantRow where
  id := p.id
  roundId := roundId
  playerId := p.playerId
  hunterVolunteer := p.hunterVolunteer
  initialRole := p.initialRole
  finalRole := p.finalRole
  characterForm := p.characterForm
  sizePreset := p.sizePreset
  outcome := p.outcome
  survivalDurationMs := p.survivalDurationMs
  finalScore := p.finalScore
  scoreBreakdown := if p.scoreBreakdown = [] then emptyJsonObject else p.scoreBreakdown
  foundOrConvertedAt := p.foundOrConvertedAt
  reconnected := p.reconnected

def discoveryRow (roundId : String) (d : TerminalDiscovery) : RoundDiscoveryRow where
  id := d.id
  roundId := roundId
  hunterPlayerId := d.hunterPlayerId
  hiderPlayerId := d.hiderPlayerId
  discoverySequence := d.sequence
  occurredAt := d.occurredAt
  causedInfectionConversion := d.causedInfectionConversion

def likeRow (roundId : String) (l : TerminalLike) : RoundLikeRow where
  id := l.id
  roundId := roundId
  voterPlayerId := l.voterPlayerId
  targetHiderPlayerId := l.targetHiderPlayerId
  createdAt := l.createdAt

def initialRevisionRow (input : TerminalResultCommit) (canonicalSha256 : String) :
    RoundResultRevisionRow where
  id := input.revisionId
  roundId := input.roundId
  revisionNumber := 1
  revisionType := .initial
  previousRevisionId := none
  resultSchemaVersion := input.resultSchemaVersion
  scoringRuleVersion := input.scoringRuleVersion
  canonicalCompleteResultSha256 := some canonicalSha256
  canonicalResultObjectKey := some input.canonicalResultObjectKey
  reasonCode := none

def initialRequestRow (input : TerminalResultCommit) : PublicationRequestRow where
  id := input.publicationRequestId
  roundId := input.roundId
  resultRevisionId := input.revisionId
  requestType := .initial
  state := .queued

/-- `SET` of the last statement. -/
def GameRoundRow.complete (winningSide : WinningSide) (canonicalSha256 : String) (endedAt : Time)
    (row : GameRoundRow) : GameRoundRow :=
  { row with
    status := .completed
    winningSide := some winningSide
    canonicalResultSha256 := some canonicalSha256
    endedAt := some endedAt }

/-! ### `commitTerminalResult` -/

/-- Runs one statement for each row. -/
def insertAll {α : Type} (insert : α → GameTx → Except SqlError GameTx) :
    List α → GameTx → Except SqlError GameTx
  | [], tx => .ok tx
  | row :: rows, tx => do
    let tx ← insert row tx
    insertAll insert rows tx

/-- `round_result_revision LEFT JOIN match_publication_request`: the initial revision of a round
and the number of its noncancelled initial requests. -/
def loadTerminalResultBundle (db : GameDb) (roundId : String) :
    Option (RoundResultRevisionRow × ℕ) :=
  (db.roundResultRevision.rows.find? fun r =>
    r.roundId = roundId && r.revisionType = .initial).map fun r =>
      (r, (db.matchPublicationRequest.rows.filter fun request =>
        request.resultRevisionId = r.id && request.requestType = .initial &&
          request.state ≠ .cancelled).length)

def assertTerminalResultReplay (db : GameDb) (input : TerminalResultCommit)
    (canonicalSha256 : String) (storedRoundSha256 : Option String) : Except CallError Unit := do
  require (storedRoundSha256 = some canonicalSha256)
    (.text "terminal result replay conflicts with completed round hash")
  match loadTerminalResultBundle db input.roundId with
  | none => .error (.text "load completed terminal result bundle: sql: no rows in result set")
  | some (revision, requestCount) =>
    require (revision.canonicalCompleteResultSha256 = some canonicalSha256 ∧
        revision.canonicalResultObjectKey = some input.canonicalResultObjectKey ∧
        revision.resultSchemaVersion = input.resultSchemaVersion ∧
        revision.scoringRuleVersion = input.scoringRuleVersion ∧ requestCount = 1)
      (.text "terminal result replay conflicts with completed result bundle")

variable (G : GoRuntime)

/-- The statements that complete a round at `answer_check`. -/
def completeRound (input : TerminalResultCommit) (canonicalSha256 : String) (db : GameDb) :
    Except CallError GameDb := do
  let tx ← wrap "insert terminal participant"
    (insertAll (insertRoundParticipant G) (input.participants.map (participantRow input.roundId))
      ⟨db, []⟩)
  let tx ← wrap "insert terminal discovery"
    (insertAll insertRoundDiscovery (input.discoveries.map (discoveryRow input.roundId)) tx)
  let tx ← wrap "insert terminal like"
    (insertAll insertRoundLike (input.likes.map (likeRow input.roundId)) tx)
  let tx ← wrap "insert initial result revision"
    (insertResultRevision (initialRevisionRow input canonicalSha256) tx)
  let tx ← wrap "insert initial publication request"
    (insertPublicationRequest (initialRequestRow input) tx)
  let rowsAffected := (tx.db.gameRound.rows.filter fun r =>
    r.id = input.roundId && r.status = .answerCheck).length
  let tx ← wrap "complete terminal result round"
    (updateGameRounds (fun r => r.id = input.roundId ∧ r.status = .answerCheck)
      ⟨.complete input.winningSide canonicalSha256 input.endedAt, fun _ => rfl⟩ tx)
  require (rowsAffected = 1) (.text "terminal result round changed concurrently")
  wrap "commit terminal result" tx.commit

/-- What the transaction does with the round it locked. -/
def terminalResultOfRound (input : TerminalResultCommit) (canonicalSha256 : String) (db : GameDb)
    (round : GameRoundRow) : Except CallError (TerminalResultCommitOutcome × GameDb) :=
  if round.status = .completed then do
    assertTerminalResultReplay db input canonicalSha256 round.canonicalResultSha256
    pure (.replayed, db)
  else if round.status = .answerCheck then do
    let db ← completeRound G input canonicalSha256 db
    pure (.committed, db)
  else .error (.text ("round cannot complete from status \"" ++ round.status.text ++ "\""))

/-- The transaction of `commitTerminalResult`. -/
def terminalResultTransaction (input : TerminalResultCommit) (db : GameDb) :
    Except CallError (TerminalResultCommitOutcome × GameDb) :=
  match validateTerminalResult G input with
  | .error message => .error (.text message)
  | .ok canonicalSha256 =>
    match db.gameRound.find? input.roundId with
    | none => .error (.text "terminal result round does not exist")
    | some round => terminalResultOfRound G input canonicalSha256 db round

def commitTerminalResult (input : TerminalResultCommit) (db : GameDb) :
    Except CallError TerminalResultCommitOutcome × GameDb :=
  match terminalResultTransaction G input db with
  | .ok (outcome, db') => (.ok outcome, db')
  | .error e => (.error e, db)

/-! ### `StartRound` and the phases -/

def resultSchemaVersion : String := "match-result-1"

def scoringRuleVersion : String := "scoring-1"

/-- The row that `StartRound` inserts: it names no result hash. -/
def roundHeader (roundId lobbyId : String) (sequenceNumber hunterCount : ℕ) (startedAt : Time) :
    GameRoundRow where
  id := roundId
  lobbyId := lobbyId
  sequenceNumber := sequenceNumber
  hunterCount := hunterCount
  status := .preparing
  winningSide := none
  resultSchemaVersion := resultSchemaVersion
  scoringRuleVersion := scoringRuleVersion
  canonicalResultSha256 := none
  startedAt := startedAt
  endedAt := none
  abortReason := none

/-- `StartRound` as far as the round is concerned: enough open members, no active round in the
lobby, and the header under the next sequence number. -/
def startRound (roundId lobbyId : String) (hunterCount : ℕ) (startedAt : Time) (db : GameDb) :
    Except CallError GameDb := do
  require (hunterCount + 1 ≤ (db.lobbyMembership.filter fun m =>
      m.lobbyId = lobbyId && m.leftAt = none).length)
    (.text "lobby needs the configured hunters plus at least one hider")
  require (∀ r ∈ db.gameRound.rows,
      r.lobbyId = lobbyId → r.status = .completed ∨ r.status = .aborted)
    (.text "lobby already has an active round")
  let sequenceNumber :=
    ((db.gameRound.rows.filter fun r => r.lobbyId = lobbyId).map (·.sequenceNumber)).foldr max 0 + 1
  let tx ← wrap "insert round header"
    (insertGameRound (roundHeader roundId lobbyId sequenceNumber hunterCount startedAt) ⟨db, []⟩)
  wrap "commit round start" tx.commit

/-- The `UPDATE` of the status of an active round. -/
def setActiveStatus (roundId : String) (status : RoundStatus) (db : GameDb) :
    Except SqlError GameDb := do
  let tx ← updateGameRounds
    (fun r => r.id = roundId ∧ r.status ≠ .completed ∧ r.status ≠ .aborted)
    ⟨fun r => { r with status := status }, fun _ => rfl⟩ ⟨db, []⟩
  tx.commit

/-- `UpdateRoundPhase`.  The statement is a transaction of its own; one that matched no row changed
nothing. -/
def updateRoundPhase (roundId : String) (status : RoundStatus) (db : GameDb) :
    Except CallError GameDb := do
  require (status = .hiding ∨ status = .hunting)
    (.text ("unsupported nonterminal round phase \"" ++ status.text ++ "\""))
  let updated := (db.gameRound.rows.filter fun r =>
    r.id = roundId && r.status ≠ .completed && r.status ≠ .aborted).length
  let db ← wrap "update round phase" (setActiveStatus roundId status db)
  require (updated = 1) (.text "active round is unavailable for phase update")
  pure db

/-- What happens to the tables.  No call of the match server moves a round to `answer_check`, from
where it completes: `enterAnswerCheck` stands for the statement that does. -/
inductive GameCall where
  | startRound (roundId lobbyId : String) (hunterCount : ℕ) (startedAt : Time)
  | updateRoundPhase (roundId : String) (status : RoundStatus)
  | enterAnswerCheck (roundId : String)
  | commitTerminalResult (input : TerminalResultCommit)
  | membership (player : List String) (lobbyMembership : List LobbyMembershipRow)
deriving DecidableEq

/-- The database that a transaction leaves. -/
def settled {ε : Type} (db : GameDb) : Except ε GameDb → GameDb
  | .ok db' => db'
  | .error _ => db

def GameCall.apply (db : GameDb) : GameCall → GameDb
  | .startRound roundId lobbyId hunterCount startedAt =>
    settled db (Nakama.startRound roundId lobbyId hunterCount startedAt db)
  | .updateRoundPhase roundId status => settled db (Nakama.updateRoundPhase roundId status db)
  | .enterAnswerCheck roundId => settled db (setActiveStatus roundId .answerCheck db)
  | .commitTerminalResult input => (Nakama.commitTerminalResult G input db).2
  | .membership player lobbyMembership =>
    { db with player := player, lobbyMembership := lobbyMembership }

def GameStep (db : GameDb) (call : GameCall) (db' : GameDb) : Prop := call.apply G db = db'

/-! ### What a successful call did -/

section Facts

variable {G} {tx tx' : GameTx}

/-- An insert into a detail table leaves the rounds alone. -/
def KeepsRounds {α : Type} (insert : α → GameTx → Except SqlError GameTx) : Prop :=
  ∀ row tx tx', insert row tx = .ok tx' → tx'.db.gameRound = tx.db.gameRound

theorem keepsRounds_participant : KeepsRounds (insertRoundParticipant G) := by
  intro row tx tx' h
  simp only [insertRoundParticipant, bind_eq_ok, exists_unit, pure_eq_ok] at h
  obtain ⟨-, -, -, -, -, -, -, -, table, -, -, -, rfl⟩ := h
  rfl

theorem keepsRounds_discovery : KeepsRounds insertRoundDiscovery := by
  intro row tx tx' h
  simp only [insertRoundDiscovery, bind_eq_ok, exists_unit, pure_eq_ok] at h
  obtain ⟨-, -, -, -, -, table, -, -, -, -, rfl⟩ := h
  rfl

theorem keepsRounds_like : KeepsRounds insertRoundLike := by
  intro row tx tx' h
  simp only [insertRoundLike, bind_eq_ok, exists_unit, pure_eq_ok] at h
  obtain ⟨-, -, -, table, -, -, -, -, rfl⟩ := h
  rfl

theorem KeepsRounds.insertAll {α : Type} {insert : α → GameTx → Except SqlError GameTx}
    (hkeeps : KeepsRounds insert) :
    ∀ {rows : List α} {tx tx' : GameTx}, insertAll insert rows tx = .ok tx' →
      tx'.db.gameRound = tx.db.gameRound
  | [], tx, tx', h => by cases h; rfl
  | row :: rows, tx, tx', h => by
    simp only [Nakama.insertAll, bind_eq_ok] at h
    obtain ⟨mid, hmid, h⟩ := h
    rw [hkeeps.insertAll h, hkeeps row tx mid hmid]

/-- The trigger lets an initial revision in only beside a round that holds its hash already, and its
versions. -/
theorem insertResultRevision_initial {row : RoundResultRevisionRow}
    (htype : row.revisionType = .initial) (h : insertResultRevision row tx = .ok tx') :
    ∃ round, tx.db.gameRound.find? row.roundId = some round ∧
      row.canonicalCompleteResultSha256 = round.canonicalResultSha256 ∧
      round.resultSchemaVersion = row.resultSchemaVersion ∧
      round.scoringRuleVersion = row.scoringRuleVersion := by
  simp only [insertResultRevision, bind_eq_ok, exists_unit] at h
  obtain ⟨-, htrigger, -⟩ := h
  unfold hcValidateResultRevision at htrigger
  cases hround : tx.db.gameRound.find? row.roundId with
  | none => simp only [hround, bind_eq_ok, reduceCtorEq, false_and, exists_false] at htrigger
  | some round =>
    simp only [hround, bind_eq_ok, exists_unit, require_eq_ok, htype, if_true, Except.ok.injEq,
      exists_eq_left'] at htrigger
    obtain ⟨-, -, hschema, hscoring, hsha⟩ := htrigger
    exact ⟨round, rfl, hsha, hschema.symm, hscoring.symm⟩

theorem completeRound_eq_ok {input : TerminalResultCommit} {canonicalSha256 : String}
    {db db' : GameDb} (h : completeRound G input canonicalSha256 db = .ok db') :
    ∃ round, db.gameRound.find? input.roundId = some round ∧
      round.canonicalResultSha256 = some canonicalSha256 := by
  simp only [completeRound, bind_eq_ok, wrap_eq_ok] at h
  obtain ⟨tx₁, hparticipants, tx₂, hdiscoveries, tx₃, hlikes, tx₄, hrevision, -⟩ := h
  obtain ⟨round, hround, hsha, -⟩ := insertResultRevision_initial rfl hrevision
  rw [keepsRounds_like.insertAll hlikes, keepsRounds_discovery.insertAll hdiscoveries,
    keepsRounds_participant.insertAll hparticipants] at hround
  exact ⟨round, hround, hsha.symm⟩

theorem setActiveStatus_eq_ok {roundId : String} {status : RoundStatus} {db db' : GameDb}
    (h : setActiveStatus roundId status db = .ok db') :
    db' = { db with
      gameRound := db.gameRound.modify
        (fun r => r.id = roundId ∧ r.status ≠ .completed ∧ r.status ≠ .aborted)
        ⟨fun r => { r with status := status }, fun _ => rfl⟩ } := by
  simp only [setActiveStatus, updateGameRounds, bind_eq_ok, pure_eq_ok] at h
  obtain ⟨tx, ⟨table, htable, rfl⟩, hcommit⟩ := h
  obtain ⟨-, rfl⟩ := Table.update_eq_ok.mp htable
  simp only [GameTx.commit, bind_eq_ok, exists_unit, pure_eq_ok] at hcommit
  exact hcommit.2.symm

theorem startRound_ok {roundId lobbyId : String} {hunterCount n : ℕ} {startedAt : Time} {db : GameDb}
    {table : Table GameRoundRow (·.id)}
    (hmembers : hunterCount + 1 ≤ (db.lobbyMembership.filter fun m =>
      m.lobbyId = lobbyId && m.leftAt = none).length)
    (hidle : ∀ r ∈ db.gameRound.rows,
      r.lobbyId = lobbyId → r.status = .completed ∨ r.status = .aborted)
    (hn : ((db.gameRound.rows.filter fun r => r.lobbyId = lobbyId).map
      (·.sequenceNumber)).foldr max 0 + 1 = n)
    (hcount : 1 ≤ hunterCount ∧ hunterCount ≤ 2)
    (hnumber : ∀ r ∈ db.gameRound.rows, ¬ (r.lobbyId = lobbyId ∧ r.sequenceNumber = n))
    (hid : ∀ r ∈ db.gameRound, r.id ≠ roundId)
    (hrows : table.rows =
      db.gameRound.rows ++ [roundHeader roundId lobbyId n hunterCount startedAt]) :
    startRound roundId lobbyId hunterCount startedAt db = .ok { db with gameRound := table } := by
  refine bind_eq_ok.mpr ⟨(), require_eq_ok.mpr hmembers, bind_eq_ok.mpr ⟨(), require_eq_ok.mpr hidle, ?_⟩⟩
  dsimp only
  rw [hn]
  refine bind_eq_ok.mpr ⟨⟨{ db with gameRound := table },
    [.terminalRoundBundle (roundHeader roundId lobbyId n hunterCount startedAt)]⟩,
    wrap_eq_ok.mpr ?_, rfl⟩
  refine bind_eq_ok.mpr ⟨(), ?_, bind_eq_ok.mpr ⟨(), require_eq_ok.mpr hnumber, bind_eq_ok.mpr ⟨table,
    Table.insert_eq_ok.mpr ⟨hid, hrows⟩, rfl⟩⟩⟩
  simp [gameRoundChecks, roundHeader, hcount]

theorem startRound_eq_ok {roundId lobbyId : String} {hunterCount : ℕ} {startedAt : Time}
    {db db' : GameDb} (h : startRound roundId lobbyId hunterCount startedAt db = .ok db') :
    ∃ header table, (∃ n, header = roundHeader roundId lobbyId n hunterCount startedAt) ∧
      table.rows = db.gameRound.rows ++ [header] ∧ db' = { db with gameRound := table } := by
  simp only [startRound, bind_eq_ok, exists_unit, wrap_eq_ok] at h
  obtain ⟨-, -, tx, hinsert, hcommit⟩ := h
  simp only [insertGameRound, bind_eq_ok, exists_unit, pure_eq_ok, Table.insert_eq_ok] at hinsert
  obtain ⟨-, -, table, ⟨-, hrows⟩, rfl⟩ := hinsert
  simp only [GameTx.commit, bind_eq_ok, exists_unit, pure_eq_ok] at hcommit
  exact ⟨_, table, ⟨_, rfl⟩, hrows, hcommit.2.symm⟩

theorem settled_of_ok {ε : Type} {P : GameDb → Prop} {db : GameDb} {x : Except ε GameDb} (h : P db)
    (hok : ∀ db', x = .ok db' → P db') : P (settled db x) := by
  cases x with
  | error e => exact h
  | ok db' => exact hok db' rfl

theorem settled_updateRoundPhase {P : GameDb → Prop} {roundId : String} {status : RoundStatus}
    {db : GameDb} (h : P db)
    (hset : ∀ db', status ≠ .completed → setActiveStatus roundId status db = .ok db' → P db') :
    P (settled db (updateRoundPhase roundId status db)) := by
  refine settled_of_ok h fun db' hok => ?_
  simp only [updateRoundPhase, bind_eq_ok, exists_unit, wrap_eq_ok, require_eq_ok, pure_eq_ok] at hok
  obtain ⟨hstatus, db', hset', -, rfl⟩ := hok
  refine hset db' ?_ hset'
  rcases hstatus with rfl | rfl <;> decide

end Facts

/-! ### No started round commits -/

/-- What `StartRound` and the phases keep: every round is open and holds no result hash. -/
def Unfinished (db : GameDb) : Prop :=
  ∀ round ∈ db.gameRound, round.status ≠ .completed ∧ round.canonicalResultSha256 = none

section Never

variable {G} {db : GameDb}

/-- **Without the hash on the round the commit fails**, whatever the terminal result. -/
theorem commitTerminalResult_of_unfinished (h : Unfinished db) (input : TerminalResultCommit) :
    ∃ e, commitTerminalResult G input db = (.error e, db) := by
  have hfails : ∀ result, terminalResultTransaction G input db ≠ .ok result := by
    intro result hok
    unfold terminalResultTransaction at hok
    cases hvalid : validateTerminalResult G input with
    | error message => rw [hvalid] at hok; cases hok
    | ok canonicalSha256 =>
      rw [hvalid] at hok
      cases hround : db.gameRound.find? input.roundId with
      | none => simp only [hround] at hok; cases hok
      | some round =>
        simp only [hround] at hok
        obtain ⟨hopen, hhash⟩ := h round (Table.find?_eq_some.mp hround).1
        rw [terminalResultOfRound, if_neg hopen] at hok
        split at hok
        · simp only [bind_eq_ok] at hok
          obtain ⟨db', hcomplete, -⟩ := hok
          obtain ⟨round', hround', hsha⟩ := completeRound_eq_ok hcomplete
          rw [hround, Option.some.injEq] at hround'
          rw [← hround', hhash] at hsha
          cases hsha
        · cases hok
  unfold commitTerminalResult
  cases htx : terminalResultTransaction G input db with
  | ok result => exact absurd htx (hfails result)
  | error e => exact ⟨e, rfl⟩

theorem unfinished_startRound {roundId lobbyId : String} {hunterCount : ℕ} {startedAt : Time}
    {db' : GameDb} (h : Unfinished db)
    (hstart : startRound roundId lobbyId hunterCount startedAt db = .ok db') : Unfinished db' := by
  obtain ⟨header, table, ⟨n, hheader⟩, hrows, rfl⟩ := startRound_eq_ok hstart
  intro round hround
  change round ∈ table at hround
  rw [Table.mem_def, hrows, List.mem_append, List.mem_singleton] at hround
  rcases hround with hround | rfl
  · exact h round hround
  · rw [hheader]
    exact ⟨by simp [roundHeader], rfl⟩

theorem unfinished_setActiveStatus {roundId : String} {status : RoundStatus} {db' : GameDb}
    (h : Unfinished db) (hstatus : status ≠ .completed)
    (hset : setActiveStatus roundId status db = .ok db') : Unfinished db' := by
  obtain rfl := setActiveStatus_eq_ok hset
  intro round hround
  rcases Table.mem_modify_cases hround with ⟨old, hold, -, rfl⟩ | ⟨hround, -⟩
  · exact ⟨hstatus, (h old hold).2⟩
  · exact h round hround

theorem unfinished_step {call : GameCall} {db' : GameDb} (h : Unfinished db)
    (hl : GameStep G db call db') : Unfinished db' := by
  cases hl
  cases call with
  | startRound roundId lobbyId hunterCount startedAt =>
    exact settled_of_ok h fun db' => unfinished_startRound h
  | updateRoundPhase roundId status =>
    exact settled_updateRoundPhase h fun db' => unfinished_setActiveStatus h
  | enterAnswerCheck roundId =>
    exact settled_of_ok h fun db' => unfinished_setActiveStatus h (by decide)
  | commitTerminalResult input =>
    obtain ⟨e, he⟩ := commitTerminalResult_of_unfinished (G := G) h input
    change Unfinished (Nakama.commitTerminalResult G input db).2
    rw [he]; exact h
  | membership player lobbyMembership => exact h

/-- **`commitTerminalResult` commits no round that `StartRound` created.**  In every run of rounds
started, moved through their phases and committed, each call fails and changes nothing. -/
theorem commitTerminalResult_never_commits (G : GoRuntime) (player : List String)
    (lobbyMembership : List LobbyMembershipRow) {ts : List (Transition GameDb GameCall)}
    {db : GameDb} (h : Run (GameStep G) (.fresh player lobbyMembership) ts db)
    (input : TerminalResultCommit) : ∃ e, commitTerminalResult G input db = (.error e, db) := by
  have hinit : Unfinished (.fresh player lobbyMembership) := by
    intro round hround
    exact absurd hround Table.not_mem_empty
  exact commitTerminalResult_of_unfinished
    (h.invariant' (fun _ _ _ hm hl => unfinished_step hm hl) hinit).1 input

end Never

/-! ### One hunter and one hider -/

/-- The document `{}`, with its hash. -/
def jsonObjectRuntime : GoRuntime where
  jsonValid bytes := bytes == emptyJsonObject
  sha256Hex bytes :=
    if bytes = emptyJsonObject then
      "44136fa355b3678a1146ad16f7e8649e94fb4fc21fe77e8310c060f61caaff8a"
    else ""
  jsonb bytes := bytes == emptyJsonObject
  jsonValid_object := by decide

def twoPlayerParticipant (playerId : String) (role : PlayerRole) (outcome : ParticipantOutcome)
    (foundAt : Option Time) : TerminalParticipant :=
  ⟨playerId, playerId, false, role, role, "humanoid", "x1_0", outcome, none, "0.0000",
    emptyJsonObject, foundAt, false⟩

/-- The hunter `…a1` found the hider `…a2`. -/
def twoPlayerResult : TerminalResultCommit where
  roundId := "01890f3e-0000-7000-8000-000000000001"
  revisionId := "01890f3e-0000-7000-8000-000000000002"
  publicationRequestId := "01890f3e-0000-7000-8000-000000000003"
  endedAt := 5000
  winningSide := .hunters
  resultSchemaVersion := "match-result-1"
  scoringRuleVersion := "scoring-1"
  canonicalCompleteResult := emptyJsonObject
  canonicalResultObjectKey := "round-results/initial.json"
  participants := [
    twoPlayerParticipant "01890f3e-0000-7000-8000-0000000000a1" .hunter .hunterWin none,
    twoPlayerParticipant "01890f3e-0000-7000-8000-0000000000a2" .hider .hiderFound (some 4000)]
  discoveries := [⟨"01890f3e-0000-7000-8000-0000000000d1", "01890f3e-0000-7000-8000-0000000000a1",
    "01890f3e-0000-7000-8000-0000000000a2", 1, 4000, false⟩]
  likes := []

/-- Both players join the lobby. -/
def twoPlayerLobby : GameDb :=
  .fresh ["01890f3e-0000-7000-8000-0000000000a1", "01890f3e-0000-7000-8000-0000000000a2"]
    [⟨"01890f3e-0000-7000-8000-00000000000b", "01890f3e-0000-7000-8000-0000000000a1", 10, none⟩,
      ⟨"01890f3e-0000-7000-8000-00000000000b", "01890f3e-0000-7000-8000-0000000000a2", 20, none⟩]

/-- Their round starts and reaches `answer_check`. -/
def twoPlayerCalls : List GameCall := [
  .startRound "01890f3e-0000-7000-8000-000000000001" "01890f3e-0000-7000-8000-00000000000b" 1 1000,
  .updateRoundPhase "01890f3e-0000-7000-8000-000000000001" .hiding,
  .updateRoundPhase "01890f3e-0000-7000-8000-000000000001" .hunting,
  .enterAnswerCheck "01890f3e-0000-7000-8000-000000000001"]

/-- The lobby with its round at `answer_check`. -/
def twoPlayerRound : GameDb :=
  twoPlayerCalls.foldl (GameCall.apply jsonObjectRuntime) twoPlayerLobby

theorem twoPlayerRound_run :
    ∃ ts, Run (GameStep jsonObjectRuntime) twoPlayerLobby ts twoPlayerRound :=
  Run.of_foldl (fun _ _ => rfl) twoPlayerCalls twoPlayerLobby

/-- The valid result of a started round at `answer_check` is refused by the revision trigger. -/
theorem commitTerminalResult_refused_by_trigger :
    ∃ ts, Run (GameStep jsonObjectRuntime) twoPlayerLobby ts twoPlayerRound ∧
      ((twoPlayerRound.gameRound.find? twoPlayerResult.roundId).map (·.status) =
        some .answerCheck) ∧
      validateTerminalResult jsonObjectRuntime twoPlayerResult =
        .ok "44136fa355b3678a1146ad16f7e8649e94fb4fc21fe77e8310c060f61caaff8a" ∧
      (commitTerminalResult jsonObjectRuntime twoPlayerResult twoPlayerRound).1 =
        .error (.wrapped "insert initial result revision"
          (.raised "23514" "initial revision must match round versions and hash")) := by
  obtain ⟨ts, hts⟩ := twoPlayerRound_run
  exact ⟨ts, hts, by decide, by decide, by decide⟩

theorem commitTerminalResult_never_commits_two_players :
    ∃ e, commitTerminalResult jsonObjectRuntime twoPlayerResult twoPlayerRound =
      (.error e, twoPlayerRound) := by
  obtain ⟨ts, hts⟩ := twoPlayerRound_run
  exact commitTerminalResult_never_commits jsonObjectRuntime _ _ hts twoPlayerResult

/-- The same lobby with a round that holds the hash before it is committed. -/
def presetHashRound : GameDb :=
  let sha := "44136fa355b3678a1146ad16f7e8649e94fb4fc21fe77e8310c060f61caaff8a"
  { twoPlayerRound with
    gameRound := twoPlayerRound.gameRound.modify (fun _ => True)
      ⟨fun r => { r with canonicalResultSha256 := some sha }, fun _ => rfl⟩ }

-- only with the hash set in advance does the bundle commit, and then replay
example :
    (commitTerminalResult jsonObjectRuntime twoPlayerResult presetHashRound).1 = .ok .committed ∧
      (commitTerminalResult jsonObjectRuntime twoPlayerResult
        (commitTerminalResult jsonObjectRuntime twoPlayerResult presetHashRound).2).1 =
        .ok .replayed := by
  decide

end HiveChameleon.Nakama
