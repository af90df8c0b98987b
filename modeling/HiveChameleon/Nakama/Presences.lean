import HiveChameleon.Nakama.Membership

/-!
# Nakama.Presences — the sessions that a match tracks

The maps of a `persistentLobbyState` from sessions to players, and what `MatchJoinAttempt`,
`MatchJoin`, `MatchLeave`, `MatchLoop` and `MatchSignal` do to them and to the tables, beside any
other writers.  `guarded_iff` says in which runs a tracked player is a member of the lobby and is
taken out of it by their own leave command alone.  What the dispatcher sends is left out.
-/

namespace HiveChameleon.Nakama.Lobby

open Lib

/-! ### The callbacks -/

/-- `persistentLobbyState`; a session maps to the player of its `lobbyPresence`. -/
structure PersistentLobbyState extends LobbyMatch where
  presences : GoMap String String
  pendingPlayerIds : GoMap String String

/-- A presence that Nakama reports as gone: its session, and whether the reason is
`PresenceReasonDisconnect`. -/
structure Departure where
  sessionId : String
  disconnected : Bool
deriving DecidableEq, Repr

def Departure.reason (departure : Departure) : HostAssignmentReason :=
  if departure.disconnected = true then .hostDisconnected else .hostLeft

namespace PersistentLobbyState

variable (state : PersistentLobbyState) (draws : Draws) (db : Db)

/-- The player has a tracked presence. -/
def Tracks (playerId : String) : Prop := ∃ sessionId, state.presences.lookup sessionId = some playerId

/-- `MatchJoinAttempt`; `identity` is what `bridgedPlayerIDForPresence` finds, and an error is the
reason of the rejection. -/
def matchJoinAttempt (sessionId : String) (identity : Option String) :
    Except String PersistentLobbyState :=
  if state.snapshot.closed = true then .error "lobby is unavailable"
  else
    match identity with
    | none => .error "scoped realtime identity required"
    | some playerId =>
      if isOpenMember state.lobbyId playerId db = true then
        .ok { state with pendingPlayerIds := state.pendingPlayerIds.insert sessionId playerId }
      else .error "join the persistent lobby through lobby.join first"

/-- One turn of the loop of `MatchJoin`; a session without a pending player is kicked. -/
def seat (sessionId : String) : PersistentLobbyState :=
  let playerId := (state.pendingPlayerIds.lookup sessionId).getD ""
  let pendingPlayerIds := state.pendingPlayerIds.erase sessionId
  if playerId = "" then { state with pendingPlayerIds }
  else { state with pendingPlayerIds, presences := state.presences.insert sessionId playerId }

def matchJoin (sessionIds : List String) : PersistentLobbyState :=
  let joined := sessionIds.foldl seat state
  { joined with toLobbyMatch := joined.refresh db }

/-- One turn of the loop of `MatchLeave`: the departure of a tracked session is noted. -/
def unseat (departure : Departure) : PersistentLobbyState :=
  let presences := state.presences.erase departure.sessionId
  let pendingPlayerIds := state.pendingPlayerIds.erase departure.sessionId
  match state.presences.lookup departure.sessionId with
  | none => { state with presences, pendingPlayerIds }
  | some playerId =>
    { state with
      presences
      pendingPlayerIds
      pendingLeaves := state.pendingLeaves.insert playerId departure.reason }

/-- `MatchLeave`; a match of a closed lobby ends, and an error leaves the departures noted. -/
def matchLeave (departures : List Departure) : Option PersistentLobbyState × Db :=
  let left := departures.foldl unseat state
  match left.flushPendingLeaves draws db with
  | .error _ => (some left, db)
  | .ok (closed, lobbyMatch, db) =>
    (if closed = true then none else some { left with toLobbyMatch := lobbyMatch }, db)

/-- `MatchLoop` -/
def matchLoop (messages : List MatchData) : Option PersistentLobbyState × Db :=
  let tracked := state.presences.entries.map fun entry => ⟨entry.1, entry.2⟩
  let looped := state.toLobbyMatch.matchLoop draws db tracked messages
  (looped.1.map fun lobbyMatch => { state with toLobbyMatch := lobbyMatch }, looped.2)

/-- The presences that `kickPlayerPresences` deletes. -/
def kickPlayerPresences (playerId : String) : PersistentLobbyState :=
  { state with
    presences := state.presences.keys.foldl (fun presences sessionId =>
      if presences.lookup sessionId = some playerId then presences.erase sessionId else presences)
      state.presences }

/-- `MatchSignal`; a player who has left is no longer tracked. -/
def matchSignal (signal : LobbySignal) :
    Option PersistentLobbyState × Except SignalError LobbyRPCResponse × Db :=
  let answered := state.toLobbyMatch.matchSignal draws db signal
  let next := answered.lobbyMatch.map fun lobbyMatch => { state with toLobbyMatch := lobbyMatch }
  let next :=
    match signal, answered.answer with
    | .leave playerId _, .ok _ => next.map (·.kickPlayerPresences playerId)
    | _, _ => next
  (next, answered.answer, answered.db)

end PersistentLobbyState

/-! ### Runs -/

structure LobbyServer where
  db : Db
  room : Option PersistentLobbyState

/-- The callbacks of the match, and what other writers commit. -/
inductive LobbyCall where
  | other (event : LobbyEvent)
  | matchInit (lobbyId : String) (round : Option MatchRound)
  | matchJoinAttempt (sessionId : String) (identity : Option String)
  | matchJoin (sessionIds : List String)
  | matchLeave (draws : Draws) (departures : List Departure)
  | matchLoop (draws : Draws) (messages : List MatchData)
  | matchSignal (draws : Draws) (signal : LobbySignal)

/-- A callback needs a match, and `matchInit` needs that there is none. -/
def LobbyServer.perform (bcrypt : PasswordCheck) (S : LobbyServer) : LobbyCall → Option LobbyServer
  | .other event => (Lobby.perform bcrypt S.db event).map fun db => ⟨db, S.room⟩
  | .matchInit lobbyId round =>
    match S.room with
    | some _ => none
    | none => (Lobby.matchInit lobbyId round S.db).map fun lobbyMatch => ⟨S.db, some ⟨lobbyMatch, ∅, ∅⟩⟩
  | .matchJoinAttempt sessionId identity => S.room.map fun state =>
    match state.matchJoinAttempt S.db sessionId identity with
    | .error _ => S
    | .ok state => ⟨S.db, some state⟩
  | .matchJoin sessionIds => S.room.map fun state => ⟨S.db, some (state.matchJoin S.db sessionIds)⟩
  | .matchLeave draws departures => S.room.map fun state =>
    let left := state.matchLeave draws S.db departures
    ⟨left.2, left.1⟩
  | .matchLoop draws messages => S.room.map fun state =>
    let looped := state.matchLoop draws S.db messages
    ⟨looped.2, looped.1⟩
  | .matchSignal draws signal => S.room.map fun state =>
    let answered := state.matchSignal draws S.db signal
    ⟨answered.2.2, answered.1⟩

def ServerStep (bcrypt : PasswordCheck) (S : LobbyServer) (call : LobbyCall) (S' : LobbyServer) :
    Prop := S.perform bcrypt call = some S'

def noRoom (versions : List (String × MapVersionStatus)) : LobbyServer := ⟨noLobbies versions, none⟩

/-- The match and the tables, without the sessions. -/
def LobbyServer.base (S : LobbyServer) : LobbySystem := ⟨S.db, S.room.map (·.toLobbyMatch)⟩

/-! ### What is promised, and when it is kept -/

/-- **Every tracked presence belongs to an open member of the lobby.** -/
def TrackedAreMembers (S : LobbyServer) : Prop :=
  ∀ state ∈ S.room, ∀ playerId, state.Tracks playerId →
    isOpenMember state.lobbyId playerId S.db = true

/-- The sessions that a call reports as gone. -/
def LobbyCall.departing : LobbyCall → List String
  | matchLeave _ departures => departures.map (·.sessionId)
  | _ => []

/-- The call is a leave command of the player. -/
def LobbyCall.Leaves (lobbyId playerId : String) : LobbyCall → Prop
  | other (.command c) => c.Expels lobbyId playerId
  | matchSignal _ (.leave leaver _) => leaver = playerId
  | _ => False

/-- **A tracked player stays a member** unless they leave: one with a tracked session that the call
does not report as gone, and whose leave command the call is not. -/
def KeepsConnected (t : Transition LobbyServer LobbyCall) : Prop :=
  ∀ state ∈ t.pre.room, ∀ sessionId playerId,
    state.presences.lookup sessionId = some playerId → sessionId ∉ t.label.departing →
      ¬ t.label.Leaves state.lobbyId playerId →
        isOpenMember state.lobbyId playerId t.pre.db = true →
          isOpenMember state.lobbyId playerId t.post.db = true

def Guarded (t : Transition LobbyServer LobbyCall) : Prop :=
  TrackedAreMembers t.post ∧ KeepsConnected t

/-- The store commits the departures that the call flushes. -/
def LobbyCall.Flushes (state : PersistentLobbyState) (db : Db) : LobbyCall → Prop
  | matchLeave draws departures =>
    ((departures.foldl PersistentLobbyState.unseat state).flushPendingLeaves draws db).isOk = true
  | matchLoop draws _ => (state.flushPendingLeaves draws db).isOk = true
  | _ => True

/-- **The durable store does not fail.** -/
def StoreAnswers (t : Transition LobbyServer LobbyCall) : Prop :=
  ∀ state ∈ t.pre.room, t.label.Flushes state t.pre.db

/-- A player whose session joins is still a member, a player one of whose sessions is gone has no
other, and a leave command that the match does not handle names nobody whom it tracks. -/
def LobbyCall.Fits (state : PersistentLobbyState) (db : Db) : LobbyCall → Prop
  | matchJoin sessionIds => ∀ sessionId ∈ sessionIds,
    ∀ playerId ∈ state.pendingPlayerIds.lookup sessionId,
      playerId = "" ∨ isOpenMember state.lobbyId playerId db = true
  | matchLeave _ departures => ∀ departure ∈ departures,
    ∀ playerId ∈ state.presences.lookup departure.sessionId, ∀ sessionId ∈ state.presences.keys,
      state.presences.lookup sessionId = some playerId → sessionId ∈ departures.map (·.sessionId)
  | other (.command c) => ∀ sessionId ∈ state.presences.keys,
    ∀ playerId ∈ state.presences.lookup sessionId, ¬ c.Expels state.lobbyId playerId
  | _ => True

/-- **Nothing slips between the maps and the tables.** -/
def Tidy (t : Transition LobbyServer LobbyCall) : Prop :=
  ∀ state ∈ t.pre.room, t.label.Fits state t.pre.db

/-! ### The maps after a callback -/

theorem mem_keys_of_lookup {presences : GoMap String String} {sessionId playerId : String}
    (h : presences.lookup sessionId = some playerId) : sessionId ∈ presences.keys :=
  AList.mem_keys.mp (AList.lookup_isSome.mp (Option.isSome_of_eq_some h))

namespace PersistentLobbyState

variable {state : PersistentLobbyState} {draws : Draws} {db : Db} {playerId sessionId : String}

theorem seat_lobbyMatch : (state.seat sessionId).toLobbyMatch = state.toLobbyMatch := by
  unfold seat
  by_cases hnone : (state.pendingPlayerIds.lookup sessionId).getD "" = ""
  · simp only [if_pos hnone]
  · simp only [if_neg hnone]

theorem seats_lobbyMatch (sessionIds : List String) :
    (sessionIds.foldl seat state).toLobbyMatch = state.toLobbyMatch := by
  induction sessionIds generalizing state with
  | nil => rfl
  | cons sessionId rest ih => rw [List.foldl_cons, ih, seat_lobbyMatch]

theorem seat_pending (other : String) : (state.seat sessionId).pendingPlayerIds.lookup other =
    if other = sessionId then none else state.pendingPlayerIds.lookup other := by
  have hpending : (state.seat sessionId).pendingPlayerIds = state.pendingPlayerIds.erase sessionId := by
    unfold seat
    by_cases hnone : (state.pendingPlayerIds.lookup sessionId).getD "" = ""
    · simp only [if_pos hnone]
    · simp only [if_neg hnone]
  rw [hpending]
  by_cases hother : other = sessionId
  · rw [if_pos hother, hother, AList.lookup_erase]
  · rw [if_neg hother, AList.lookup_erase_ne hother]

theorem seat_presences (other : String) : (state.seat sessionId).presences.lookup other =
    if other = sessionId ∧ (state.pendingPlayerIds.lookup other).getD "" ≠ "" then
      state.pendingPlayerIds.lookup other
    else state.presences.lookup other := by
  unfold seat
  by_cases hother : other = sessionId
  · subst hother
    cases hpending : state.pendingPlayerIds.lookup other with
    | none => simp
    | some playerId =>
      by_cases hempty : playerId = ""
      · simp [hempty]
      · simp [hempty, AList.lookup_insert]
  · have hnot : ¬ (other = sessionId ∧ (state.pendingPlayerIds.lookup other).getD "" ≠ "") :=
      fun h => hother h.1
    rw [if_neg hnot]
    by_cases hnone : (state.pendingPlayerIds.lookup sessionId).getD "" = ""
    · simp only [if_pos hnone]
    · simp only [if_neg hnone]
      exact AList.lookup_insert_ne hother

/-- **Who is tracked after `MatchJoin`**: the pending players of the sessions that join, and for
every other session the player as before. -/
theorem seats_presences (sessionIds : List String) (other : String) :
    (sessionIds.foldl seat state).presences.lookup other =
      if other ∈ sessionIds ∧ (state.pendingPlayerIds.lookup other).getD "" ≠ "" then
        state.pendingPlayerIds.lookup other
      else state.presences.lookup other := by
  induction sessionIds generalizing state with
  | nil => simp
  | cons sessionId rest ih =>
    rw [List.foldl_cons, ih, seat_pending, seat_presences]
    by_cases hother : other = sessionId
    · -- a session joins once: the second time nobody is pending for it
      simp [hother]
    · simp [hother]

theorem matchJoin_presences (sessionIds : List String) (other : String) :
    (state.matchJoin db sessionIds).presences.lookup other =
      if other ∈ sessionIds ∧ (state.pendingPlayerIds.lookup other).getD "" ≠ "" then
        state.pendingPlayerIds.lookup other
      else state.presences.lookup other :=
  seats_presences sessionIds other

/-- The departures that the loop of `MatchLeave` notes. -/
def departed (state : PersistentLobbyState) : List Departure → List (String × HostAssignmentReason)
  | [] => []
  | departure :: rest =>
    ((state.presences.lookup departure.sessionId).map fun playerId =>
      (playerId, departure.reason)).toList ++ departed (state.unseat departure) rest

theorem unseat_lobbyMatch (departure : Departure) : (state.unseat departure).toLobbyMatch =
    state.noteLeaves ((state.presences.lookup departure.sessionId).map fun playerId =>
      (playerId, departure.reason)).toList := by
  unfold unseat
  cases state.presences.lookup departure.sessionId with
  | none => rfl
  | some playerId => rfl

theorem unseats_lobbyMatch (departures : List Departure) :
    (departures.foldl unseat state).toLobbyMatch = state.noteLeaves (state.departed departures) := by
  induction departures generalizing state with
  | nil => rfl
  | cons departure rest ih =>
    rw [List.foldl_cons, ih, unseat_lobbyMatch, departed]
    unfold LobbyMatch.noteLeaves
    rw [List.foldl_append]

theorem unseat_presences (departure : Departure) (other : String) :
    (state.unseat departure).presences.lookup other =
      if other = departure.sessionId then none else state.presences.lookup other := by
  have hpresences : (state.unseat departure).presences =
      state.presences.erase departure.sessionId := by
    unfold unseat
    cases state.presences.lookup departure.sessionId with
    | none => rfl
    | some playerId => rfl
  rw [hpresences]
  by_cases hother : other = departure.sessionId
  · rw [if_pos hother, hother, AList.lookup_erase]
  · rw [if_neg hother, AList.lookup_erase_ne hother]

/-- **Who is tracked after `MatchLeave`**: the players of the sessions that are not gone. -/
theorem unseats_presences (departures : List Departure) (other : String) :
    (departures.foldl unseat state).presences.lookup other =
      if other ∈ departures.map (·.sessionId) then none else state.presences.lookup other := by
  induction departures generalizing state with
  | nil => simp
  | cons departure rest ih =>
    rw [List.foldl_cons, ih, unseat_presences, List.map_cons]
    by_cases hother : other = departure.sessionId
    · simp [hother]
    · simp [hother]

theorem unseat_pendingLeaves (departure : Departure) :
    playerId ∈ (state.unseat departure).pendingLeaves ↔
      playerId ∈ state.pendingLeaves ∨ state.presences.lookup departure.sessionId = some playerId := by
  unfold unseat
  cases hlookup : state.presences.lookup departure.sessionId with
  | none => simp
  | some tracked =>
    rw [AList.mem_insert, Option.some.injEq, or_comm, eq_comm]

/-- **Whose departure is noted**: every player one of whose sessions is gone. -/
theorem unseats_pendingLeaves (departures : List Departure) :
    playerId ∈ (departures.foldl unseat state).pendingLeaves ↔
      playerId ∈ state.pendingLeaves ∨
        ∃ departure ∈ departures, state.presences.lookup departure.sessionId = some playerId := by
  induction departures generalizing state with
  | nil => simp
  | cons departure rest ih =>
    rw [List.foldl_cons, ih, unseat_pendingLeaves]
    refine ⟨?_, ?_⟩
    · rintro ((hnoted | hfirst) | ⟨later, hlater, hlookup⟩)
      · exact .inl hnoted
      · exact .inr ⟨departure, List.mem_cons_self, hfirst⟩
      · rw [unseat_presences] at hlookup
        by_cases hsame : later.sessionId = departure.sessionId
        · rw [if_pos hsame] at hlookup
          cases hlookup
        · rw [if_neg hsame] at hlookup
          exact .inr ⟨later, List.mem_cons_of_mem _ hlater, hlookup⟩
    · rintro (hnoted | ⟨any, hany, hlookup⟩)
      · exact .inl (.inl hnoted)
      · by_cases hsame : any.sessionId = departure.sessionId
        · exact .inl (.inr (hsame ▸ hlookup))
        · rcases List.mem_cons.mp hany with rfl | hrest
          · exact absurd rfl hsame
          · refine .inr ⟨any, hrest, ?_⟩
            rw [unseat_presences, if_neg hsame]
            exact hlookup

theorem kicks_lookup (sessionIds : List String) (presences : GoMap String String) (other : String) :
    AList.lookup other (sessionIds.foldl (fun presences sessionId =>
        if presences.lookup sessionId = some playerId then presences.erase sessionId else presences)
      presences) =
      if other ∈ sessionIds ∧ presences.lookup other = some playerId then none
      else presences.lookup other := by
  induction sessionIds generalizing presences with
  | nil => simp
  | cons sessionId rest ih =>
    rw [List.foldl_cons, ih]
    by_cases hplayer : presences.lookup sessionId = some playerId
    · rw [if_pos hplayer]
      by_cases hother : other = sessionId
      · subst hother
        simp [hplayer, AList.lookup_erase]
      · simp [hother, AList.lookup_erase_ne hother]
    · rw [if_neg hplayer]
      by_cases hother : other = sessionId
      · subst hother
        simp [hplayer]
      · simp [hother]

/-- **Who is tracked after `kickPlayerPresences`**: everybody but the player. -/
theorem kick_presences (other : String) :
    (state.kickPlayerPresences playerId).presences.lookup other =
      if state.presences.lookup other = some playerId then none else state.presences.lookup other := by
  unfold kickPlayerPresences
  dsimp only
  rw [kicks_lookup]
  by_cases hplayer : state.presences.lookup other = some playerId
  · rw [if_pos ⟨mem_keys_of_lookup hplayer, hplayer⟩, if_pos hplayer]
  · have hnot : ¬ (other ∈ state.presences.keys ∧ state.presences.lookup other = some playerId) :=
      fun h => hplayer h.2
    rw [if_neg hnot, if_neg hplayer]

end PersistentLobbyState

/-! ### What the calls of the match write -/

def LobbySignal.leaver : LobbySignal → Option String
  | leave playerId _ => some playerId
  | _ => none

/-- A signal leaves the noted departures, and commits nothing or one command, which takes out of
the lobby at most the player whose leave signal it answers. -/
structure SignalWrites (bcrypt : PasswordCheck) (m : LobbyMatch) (db : Db) (signal : LobbySignal)
    (answered : Answered) : Prop where
  pending : ∀ next ∈ answered.lobbyMatch, next.pendingLeaves = m.pendingLeaves
  writes : answered.db = db ∨ ∃ c : LobbyCommand, c.commit bcrypt db = .ok answered.db ∧
    ∀ lobbyId playerId, c.Expels lobbyId playerId →
      signal.leaver = some playerId ∧ ∃ response, answered.answer = .ok response

section Writes

variable {bcrypt : PasswordCheck} {draws : Draws} {db db' : Db} {m m' : LobbyMatch}
  {lobbyId playerId : String}

theorem SignalWrites.refuse {signal : LobbySignal} {error : LobbyError} :
    SignalWrites bcrypt m db signal (m.refuse db error) := by
  refine ⟨fun next hnext => ?_, .inl rfl⟩
  obtain rfl := Option.some.inj hnext
  rfl

theorem SignalWrites.commit {c : LobbyCommand} {signal : LobbySignal} {answered : Answered}
    (hpending : ∀ next ∈ answered.lobbyMatch, next.pendingLeaves = m.pendingLeaves)
    (hcommit : c.commit bcrypt db = .ok answered.db)
    (hkeeps : ∀ lobbyId playerId, ¬ c.Expels lobbyId playerId) :
    SignalWrites bcrypt m db signal answered :=
  ⟨hpending, .inr ⟨c, hcommit, fun lobbyId playerId hexpels =>
    absurd hexpels (hkeeps lobbyId playerId)⟩⟩

theorem answerLive_pending {snapshot : LobbySnapshot} :
    ∀ next ∈ (m.answerLive db snapshot).lobbyMatch, next.pendingLeaves = m.pendingLeaves := by
  intro next hnext
  obtain rfl := Option.some.inj hnext
  rfl

theorem signalLeave_writes (reason : HostAssignmentReason) : SignalWrites bcrypt m db
    (.leave playerId reason) (m.signalLeave draws db playerId reason) := by
  unfold LobbyMatch.signalLeave
  by_cases hplayer : playerId = ""
  · rw [if_pos hplayer]
    exact .refuse
  rw [if_neg hplayer]
  dsimp only
  generalize (if reason = .hostDisconnected then HostAssignmentReason.hostDisconnected
    else .hostLeft) = hostReason
  cases hleave : leave draws.assignmentId draws.now m.lobbyId [playerId] hostReason db with
  | error e => exact .refuse
  | ok left =>
    obtain ⟨snapshot, closed, db'⟩ := left
    refine ⟨answerLive_pending, .inr ⟨.leave draws.assignmentId draws.now m.lobbyId [playerId] hostReason,
      bind_eq_ok.mpr ⟨_, hleave, rfl⟩, fun lobbyId other hexpels => ⟨?_, _, rfl⟩⟩⟩
    rw [List.mem_singleton.mp hexpels.2]
    rfl

theorem signalNominateHunter_writes (nomination : Option NominateHunterRequest) :
    SignalWrites bcrypt m db (.nominateHunter playerId nomination)
      (m.signalNominateHunter db playerId nomination) := by
  unfold LobbyMatch.signalNominateHunter
  cases nomination with
  | none => exact .refuse
  | some request =>
    dsimp only
    by_cases hid : request.lobbyId ≠ m.lobbyId
    · rw [if_pos hid]
      exact .refuse
    rw [if_neg hid]
    by_cases hround : m.round.isSome = true
    · rw [if_pos hround]
      exact .refuse
    rw [if_neg hround]
    by_cases hfast : decide (playerId ∈ m.nominations) = request.nominated
    · rw [if_pos hfast]
      by_cases hversion : request.expectedLobbyVersion ≠ m.snapshot.rowVersion
      · rw [if_pos hversion]
        exact .refuse
      · rw [if_neg hversion]
        refine ⟨fun next hnext => ?_, .inl rfl⟩
        obtain rfl := Option.some.inj hnext
        rfl
    rw [if_neg hfast]
    cases hrecord : recordNominationChange playerId request db with
    | error e => exact .refuse
    | ok recorded =>
      obtain ⟨snapshot, db'⟩ := recorded
      exact .commit (c := .recordNominationChange playerId request) answerLive_pending
        (bind_eq_ok.mpr ⟨_, hrecord, rfl⟩) fun _ _ => id

theorem signalUpdateConfiguration_writes (request : Option UpdateLobbyConfigurationRequest) :
    SignalWrites bcrypt m db (.updateConfiguration playerId request)
      (m.signalUpdateConfiguration draws db playerId request) := by
  unfold LobbyMatch.signalUpdateConfiguration
  cases request with
  | none => exact .refuse
  | some request =>
    dsimp only
    by_cases hid : request.lobbyId ≠ m.lobbyId
    · rw [if_pos hid]
      exact .refuse
    rw [if_neg hid]
    cases hupdate : updateConfiguration draws.now playerId request db with
    | error e => exact .refuse
    | ok updated =>
      obtain ⟨snapshot, db'⟩ := updated
      exact .commit (c := .updateConfiguration draws.now playerId request) answerLive_pending
        (bind_eq_ok.mpr ⟨_, hupdate, rfl⟩) fun _ _ => id

theorem signalStart_writes (request : Option StartLobbyRequest) :
    SignalWrites bcrypt m db (.start playerId request) (m.signalStart draws db playerId request) := by
  unfold LobbyMatch.signalStart
  cases request with
  | none => exact .refuse
  | some request =>
    dsimp only
    by_cases hid : request.lobbyId ≠ m.lobbyId
    · rw [if_pos hid]
      exact .refuse
    rw [if_neg hid]
    by_cases hround : m.round.isSome = true
    · rw [if_pos hround]
      exact .refuse
    rw [if_neg hround]
    by_cases hmode : m.snapshot.configuration.mode ≠ .casual
    · rw [if_pos hmode]
      exact .refuse
    rw [if_neg hmode]
    cases hstart : startRound draws.roundId.1 draws.now draws.random playerId request db with
    | error e => exact .refuse
    | ok started =>
      obtain ⟨snapshot, round, db'⟩ := started
      dsimp only
      -- the round is committed also where the match cannot run it
      cases newCasualRoundState round with
      | error e =>
        refine .commit (c := .startRound draws.roundId.1 draws.now draws.random playerId request)
          (fun next hnext => ?_) (bind_eq_ok.mpr ⟨_, hstart, rfl⟩) fun _ _ => id
        obtain rfl := Option.some.inj hnext
        rfl
      | ok casualRound =>
        refine .commit (c := .startRound draws.roundId.1 draws.now draws.random playerId request)
          (fun next hnext => ?_) (bind_eq_ok.mpr ⟨_, hstart, rfl⟩) fun _ _ => id
        obtain rfl := Option.some.inj hnext
        rfl

/-- **What a signal writes.** -/
theorem matchSignal_writes (signal : LobbySignal) :
    SignalWrites bcrypt m db signal (m.matchSignal draws db signal) := by
  cases signal with
  | terminateDuplicate => exact ⟨fun _ hnext => (by cases hnext), .inl rfl⟩
  | sync =>
    unfold LobbyMatch.matchSignal LobbyMatch.signalSync
    dsimp only
    cases loadLobbySnapshot m.lobbyId db with
    | error e => exact .refuse
    | ok snapshot => exact ⟨answerLive_pending, .inl rfl⟩
  | leave playerId reason => exact signalLeave_writes reason
  | nominateHunter playerId nomination => exact signalNominateHunter_writes nomination
  | updateConfiguration playerId request => exact signalUpdateConfiguration_writes request
  | start playerId request => exact signalStart_writes request
  | other type => exact .refuse

/-- **What a flush writes**: the players with noted departures leave. -/
theorem flushPendingLeaves_writes {closed : Bool}
    (h : m.flushPendingLeaves draws db = .ok (closed, m', db')) :
    m'.lobbyId = m.lobbyId ∧ m'.pendingLeaves.keys = [] ∧
      (Consistent db → ∀ playerId, Joined m.lobbyId playerId db'.lobbyMembership ↔
        Joined m.lobbyId playerId db.lobbyMembership ∧ playerId ∉ m.pendingLeaves) := by
  unfold LobbyMatch.flushPendingLeaves at h
  by_cases hnone : m.pendingLeaves.keys = []
  · rw [if_pos hnone] at h
    cases h
    refine ⟨rfl, hnone, fun _ playerId => ⟨fun hjoined => ⟨hjoined, ?_⟩, fun hjoined => hjoined.1⟩⟩
    rw [AList.mem_keys, hnone]
    exact List.not_mem_nil
  · rw [if_neg hnone] at h
    simp only [bind_eq_ok, pure_eq_ok, Prod.mk.injEq] at h
    obtain ⟨⟨snapshot, closed', db₁⟩, hleave, -, rfl, rfl⟩ := h
    refine ⟨rfl, rfl, fun hc playerId => ?_⟩
    rw [leave_joined hc hleave]
    exact ⟨fun hjoined => ⟨hjoined.1, fun hnoted => hjoined.2 ⟨rfl, hnoted⟩⟩,
      fun hjoined => ⟨hjoined.1, fun hnamed => hjoined.2 hnamed.2⟩⟩

end Writes

theorem matchLoop_of_flushed {m : LobbyMatch} {draws : Draws} {db : Db}
    {presences : List LobbyPresence} {messages : List MatchData} (h : m.pendingLeaves.keys = []) :
    (m.matchLoop draws db presences messages).2 = db ∧
      ∀ next ∈ (m.matchLoop draws db presences messages).1,
        next.lobbyId = m.lobbyId ∧ next.pendingLeaves = m.pendingLeaves := by
  unfold LobbyMatch.matchLoop LobbyMatch.flushPendingLeaves
  by_cases hclosed : m.snapshot.closed = true
  · rw [if_pos hclosed]
    exact ⟨rfl, fun next hnext => (by cases hnext)⟩
  · rw [if_neg hclosed, if_pos h]
    dsimp only
    rw [if_neg hclosed]
    refine ⟨rfl, fun next hnext => ?_⟩
    obtain rfl := Option.some.inj hnext
    refine ⟨(runRound_cache draws m presences messages).1, ?_⟩
    unfold LobbyMatch.runRound
    cases m.round with
    | none => rfl
    | some round =>
      cases m.casualRound with
      | none => rfl
      | some casualRound => rfl

theorem refresh_pending {m : LobbyMatch} {db : Db} : (m.refresh db).pendingLeaves = m.pendingLeaves := by
  unfold LobbyMatch.refresh
  cases loadLobbySnapshot m.lobbyId db with
  | error e => rfl
  | ok snapshot => rfl

theorem refresh_lobbyId {m : LobbyMatch} {db : Db} : (m.refresh db).lobbyId = m.lobbyId := by
  unfold LobbyMatch.refresh
  cases loadLobbySnapshot m.lobbyId db with
  | error e => rfl
  | ok snapshot => rfl

theorem matchJoinAttempt_keeps {state admitted : PersistentLobbyState} {db : Db} {sessionId : String}
    {identity : Option String} (h : state.matchJoinAttempt db sessionId identity = .ok admitted) :
    admitted.toLobbyMatch = state.toLobbyMatch ∧ admitted.presences = state.presences := by
  unfold PersistentLobbyState.matchJoinAttempt at h
  by_cases hclosed : state.snapshot.closed = true
  · rw [if_pos hclosed] at h
    cases h
  rw [if_neg hclosed] at h
  cases identity with
  | none => cases h
  | some playerId =>
    by_cases hmember : isOpenMember state.lobbyId playerId db = true
    · simp only [if_pos hmember] at h
      obtain rfl := Except.ok.inj h
      exact ⟨rfl, rfl⟩
    · simp only [if_neg hmember] at h
      cases h

/-! ### The sessions over the match -/

section Signal

variable {state : PersistentLobbyState} {draws : Draws} {db : Db} {signal : LobbySignal}

theorem leaver_eq_some {playerId : String} (h : signal.leaver = some playerId) :
    ∃ reason, signal = .leave playerId reason := by
  cases signal with
  | leave leaver reason =>
    obtain rfl := Option.some.inj h
    exact ⟨reason, rfl⟩
  | terminateDuplicate => cases h
  | sync => cases h
  | nominateHunter playerId nomination => cases h
  | updateConfiguration playerId request => cases h
  | start playerId request => cases h
  | other type => cases h

theorem matchSignal_lobbyMatch : (state.matchSignal draws db signal).1.map (·.toLobbyMatch) =
    (state.toLobbyMatch.matchSignal draws db signal).lobbyMatch := by
  have hkept : ((state.toLobbyMatch.matchSignal draws db signal).lobbyMatch.map fun lobbyMatch =>
      { state with toLobbyMatch := lobbyMatch }).map (·.toLobbyMatch) =
        (state.toLobbyMatch.matchSignal draws db signal).lobbyMatch := by
    rw [Option.map_map]
    exact Option.map_id'
  unfold PersistentLobbyState.matchSignal
  dsimp only
  split
  · rw [Option.map_map]
    exact hkept
  · exact hkept

theorem matchSignal_presences {next : PersistentLobbyState} {sessionId playerId : String}
    (hnext : next ∈ (state.matchSignal draws db signal).1)
    (htracked : next.presences.lookup sessionId = some playerId) :
    state.presences.lookup sessionId = some playerId ∧
      ¬ (signal.leaver = some playerId ∧
        ∃ response, (state.toLobbyMatch.matchSignal draws db signal).answer = .ok response) := by
  unfold PersistentLobbyState.matchSignal at hnext
  dsimp only at hnext
  split at hnext
  · rename_i leaver reason response hanswer
    obtain ⟨kept, hkept, rfl⟩ := Option.mem_map.mp hnext
    obtain ⟨lobbyMatch, -, rfl⟩ := Option.mem_map.mp hkept
    rw [PersistentLobbyState.kick_presences] at htracked
    by_cases hleaver : state.presences.lookup sessionId = some leaver
    · rw [if_pos hleaver] at htracked
      cases htracked
    · rw [if_neg hleaver] at htracked
      refine ⟨htracked, fun hleft => hleaver ?_⟩
      rw [show leaver = playerId from Option.some.inj hleft.1]
      exact htracked
  · rename_i hnot
    obtain ⟨lobbyMatch, -, rfl⟩ := Option.mem_map.mp hnext
    refine ⟨htracked, ?_⟩
    rintro ⟨hleaver, response, hanswer⟩
    obtain ⟨reason, rfl⟩ := leaver_eq_some hleaver
    exact hnot playerId reason response rfl hanswer

end Signal

section Base

variable {bcrypt : PasswordCheck} {S S' : LobbyServer} {call : LobbyCall}

/-- **Without the sessions, every call is a call of the match or changes nothing.** -/
theorem base_step (h : ServerStep bcrypt S call S') :
    S'.base = S.base ∨ ∃ label, MatchStep bcrypt S.base label S'.base := by
  cases call with
  | other event =>
    obtain ⟨db, hevent, rfl⟩ := Option.map_eq_some_iff.mp h
    refine .inr ⟨.other event, ?_⟩
    exact Option.map_eq_some_iff.mpr ⟨db, hevent, rfl⟩
  | matchInit lobbyId round =>
    simp only [ServerStep, LobbyServer.perform] at h
    cases hroom : S.room with
    | some state =>
      rw [hroom] at h
      cases h
    | none =>
      rw [hroom] at h
      obtain ⟨lobbyMatch, hinit, rfl⟩ := Option.map_eq_some_iff.mp h
      refine .inr ⟨.init lobbyId round, ?_⟩
      unfold MatchStep LobbySystem.perform LobbyServer.base
      rw [hroom]
      exact Option.map_eq_some_iff.mpr ⟨lobbyMatch, hinit, rfl⟩
  | matchJoinAttempt sessionId identity =>
    obtain ⟨state, hroom, rfl⟩ := Option.map_eq_some_iff.mp h
    left
    cases hattempt : state.matchJoinAttempt S.db sessionId identity with
    | error reason => rfl
    | ok admitted =>
      unfold LobbyServer.base
      dsimp only
      rw [hroom, Option.map_some, Option.map_some, (matchJoinAttempt_keeps hattempt).1]
  | matchJoin sessionIds =>
    obtain ⟨state, hroom, rfl⟩ := Option.map_eq_some_iff.mp h
    refine .inr ⟨.matchJoin, Option.map_eq_some_iff.mpr ⟨state.toLobbyMatch, ?_, ?_⟩⟩
    · rw [LobbyServer.base, hroom]
      rfl
    · have hsame : (sessionIds.foldl PersistentLobbyState.seat state).toLobbyMatch =
          state.toLobbyMatch := PersistentLobbyState.seats_lobbyMatch sessionIds
      show (⟨S.db, some (state.refresh S.db)⟩ : LobbySystem) = ⟨S.db, some
        ((sessionIds.foldl PersistentLobbyState.seat state).toLobbyMatch.refresh S.db)⟩
      rw [hsame]
  | matchLeave draws departures =>
    obtain ⟨state, hroom, rfl⟩ := Option.map_eq_some_iff.mp h
    refine .inr ⟨.matchLeave draws (state.departed departures),
      Option.map_eq_some_iff.mpr ⟨state.toLobbyMatch, ?_, ?_⟩⟩
    · rw [LobbyServer.base, hroom]
      rfl
    · have hsame : (departures.foldl PersistentLobbyState.unseat state).toLobbyMatch =
          state.noteLeaves (state.departed departures) :=
        PersistentLobbyState.unseats_lobbyMatch departures
      unfold PersistentLobbyState.matchLeave LobbyMatch.matchLeave LobbyServer.base
      dsimp only
      rw [← hsame]
      cases (departures.foldl PersistentLobbyState.unseat state).flushPendingLeaves draws S.db with
      | error e => rfl
      | ok flushed =>
        obtain ⟨closed, lobbyMatch, db⟩ := flushed
        cases closed with
        | true => rfl
        | false => rfl
  | matchLoop draws messages =>
    obtain ⟨state, hroom, rfl⟩ := Option.map_eq_some_iff.mp h
    refine .inr ⟨.matchLoop draws (state.presences.entries.map fun entry => ⟨entry.1, entry.2⟩)
      messages, Option.map_eq_some_iff.mpr ⟨state.toLobbyMatch, ?_, ?_⟩⟩
    · rw [LobbyServer.base, hroom]
      rfl
    · unfold PersistentLobbyState.matchLoop LobbyServer.base
      dsimp only
      rw [Option.map_map]
      congr 1
      exact Option.map_id'.symm
  | matchSignal draws signal =>
    obtain ⟨state, hroom, rfl⟩ := Option.map_eq_some_iff.mp h
    refine .inr ⟨.signal draws signal, Option.map_eq_some_iff.mpr ⟨state.toLobbyMatch, ?_, ?_⟩⟩
    · rw [LobbyServer.base, hroom]
      rfl
    · exact congrArg (LobbySystem.mk _) matchSignal_lobbyMatch.symm

theorem step_base (h : SystemInvariant S.base) (hstep : ServerStep bcrypt S call S') :
    SystemInvariant S'.base := by
  rcases base_step hstep with heq | ⟨label, hlabel⟩
  · rw [heq]
    exact h
  · exact step_invariant h hlabel

theorem step_flushed (h : ∀ state ∈ S.room, state.pendingLeaves.keys = [])
    (hanswers : StoreAnswers ⟨S, call, S'⟩) (hstep : ServerStep bcrypt S call S') :
    ∀ next ∈ S'.room, next.pendingLeaves.keys = [] := by
  intro next hnext
  cases call with
  | other event =>
    obtain ⟨db, -, rfl⟩ := Option.map_eq_some_iff.mp hstep
    exact h next hnext
  | matchInit lobbyId round =>
    simp only [ServerStep, LobbyServer.perform] at hstep
    cases hroom : S.room with
    | some state =>
      rw [hroom] at hstep
      cases hstep
    | none =>
      rw [hroom] at hstep
      obtain ⟨lobbyMatch, hinit, rfl⟩ := Option.map_eq_some_iff.mp hstep
      obtain rfl := Option.some.inj hnext
      unfold matchInit at hinit
      cases hload : loadLobbySnapshot lobbyId S.db with
      | error e =>
        rw [hload] at hinit
        cases hinit
      | ok snapshot =>
        rw [hload] at hinit
        dsimp only at hinit
        by_cases hclosed : snapshot.closed = true
        · rw [if_pos hclosed] at hinit
          cases hinit
        · rw [if_neg hclosed] at hinit
          obtain rfl := Option.some.inj hinit
          rfl
  | matchJoinAttempt sessionId identity =>
    obtain ⟨state, hroom, rfl⟩ := Option.map_eq_some_iff.mp hstep
    cases hattempt : state.matchJoinAttempt S.db sessionId identity with
    | error reason =>
      rw [hattempt] at hnext
      exact h next hnext
    | ok admitted =>
      rw [hattempt] at hnext
      obtain rfl := Option.some.inj hnext
      rw [(matchJoinAttempt_keeps hattempt).1]
      exact h state hroom
  | matchJoin sessionIds =>
    obtain ⟨state, hroom, rfl⟩ := Option.map_eq_some_iff.mp hstep
    obtain rfl := Option.some.inj hnext
    have hsame : (state.matchJoin S.db sessionIds).pendingLeaves = state.pendingLeaves := by
      unfold PersistentLobbyState.matchJoin
      dsimp only
      rw [refresh_pending, PersistentLobbyState.seats_lobbyMatch]
    rw [hsame]
    exact h state hroom
  | matchLeave draws departures =>
    obtain ⟨state, hroom, rfl⟩ := Option.map_eq_some_iff.mp hstep
    have hflush := hanswers state hroom
    unfold PersistentLobbyState.matchLeave at hnext
    unfold LobbyCall.Flushes at hflush
    dsimp only at hnext hflush
    cases hleft : (departures.foldl PersistentLobbyState.unseat state).flushPendingLeaves draws S.db with
    | error e =>
      rw [hleft] at hflush
      cases hflush
    | ok flushed =>
      obtain ⟨closed, lobbyMatch, db⟩ := flushed
      rw [hleft] at hnext
      by_cases hclosed : closed = true
      · simp only [if_pos hclosed] at hnext
        cases hnext
      · simp only [if_neg hclosed] at hnext
        obtain rfl := Option.some.inj hnext
        exact (flushPendingLeaves_writes hleft).2.1
  | matchLoop draws messages =>
    obtain ⟨state, hroom, rfl⟩ := Option.map_eq_some_iff.mp hstep
    obtain ⟨lobbyMatch, hlooped, rfl⟩ := Option.mem_map.mp hnext
    have hkept := ((matchLoop_of_flushed (h state hroom)).2 lobbyMatch hlooped).2
    show lobbyMatch.pendingLeaves.keys = []
    rw [hkept]
    exact h state hroom
  | matchSignal draws signal =>
    obtain ⟨state, hroom, rfl⟩ := Option.map_eq_some_iff.mp hstep
    have hmem : next.toLobbyMatch ∈ (state.toLobbyMatch.matchSignal draws S.db signal).lobbyMatch := by
      rw [← matchSignal_lobbyMatch]
      exact Option.mem_map_of_mem _ hnext
    have hwrites : SignalWrites bcrypt state.toLobbyMatch S.db signal
        (state.toLobbyMatch.matchSignal draws S.db signal) := matchSignal_writes signal
    have hkept : next.pendingLeaves = state.pendingLeaves := hwrites.pending _ hmem
    rw [hkept]
    exact h state hroom

end Base

/-! ### One call -/

/-- **What holds between the calls**, as long as every call is guarded and the store does not
fail. -/
structure ServerInvariant (S : LobbyServer) : Prop where
  base : SystemInvariant S.base
  flushed : ∀ state ∈ S.room, state.pendingLeaves.keys = []
  tracked : TrackedAreMembers S

section Calls

variable {bcrypt : PasswordCheck} {S S' : LobbyServer} {call : LobbyCall}
  {state : PersistentLobbyState} {lobbyId playerId : String}

theorem ServerInvariant.consistent (h : ServerInvariant S) : Consistent S.db := h.base.consistent

theorem ServerInvariant.joined (h : ServerInvariant S) (hroom : S.room = some state)
    (htracks : state.Tracks playerId) :
    Joined state.lobbyId playerId S.db.lobbyMembership :=
  (isOpenMember_iff_joined h.consistent).mp (h.tracked state hroom playerId htracks)

theorem guarded_of_quiet (h : ServerInvariant S) (hdb : S'.db = S.db)
    (hroom : ∀ next ∈ S'.room, ∀ sessionId playerId, next.presences.lookup sessionId = some playerId →
      ∃ state ∈ S.room, next.lobbyId = state.lobbyId ∧
        state.presences.lookup sessionId = some playerId) : Guarded ⟨S, call, S'⟩ := by
  refine ⟨?_, fun state _ _ playerId _ _ _ hmember => ?_⟩
  · rintro next hnext playerId ⟨sessionId, htracked⟩
    obtain ⟨state, hstate, hid, hold⟩ := hroom next hnext sessionId playerId htracked
    show isOpenMember next.lobbyId playerId S'.db = true
    rw [hdb, hid]
    exact h.tracked state hstate playerId ⟨sessionId, hold⟩
  · show isOpenMember state.lobbyId playerId S'.db = true
    rw [hdb]
    exact hmember

theorem other_guarded_iff (h : ServerInvariant S) (h' : Consistent S'.db) {event : LobbyEvent}
    (hstep : ServerStep bcrypt S (.other event) S') :
    Guarded ⟨S, .other event, S'⟩ ↔ Tidy ⟨S, .other event, S'⟩ := by
  obtain ⟨db, hevent, rfl⟩ := Option.map_eq_some_iff.mp hstep
  cases event with
  | roundUpdate update =>
    obtain rfl := Option.some.inj hevent
    refine ⟨fun _ _ _ => trivial, fun _ => ?_⟩
    exact ⟨fun next hnext playerId htracks => h.tracked next hnext playerId htracks,
      fun _ _ _ _ _ _ _ hmember => hmember⟩
  | mapVersions versions =>
    obtain rfl := Option.some.inj hevent
    refine ⟨fun _ _ _ => trivial, fun _ => ?_⟩
    exact ⟨fun next hnext playerId htracks => h.tracked next hnext playerId htracks,
      fun _ _ _ _ _ _ _ hmember => hmember⟩
  | command c =>
    have hcommit : c.commit bcrypt S.db = .ok db := toOption_eq_some.mp hevent
    refine ⟨fun hguarded state hroom => ?_, fun htidy => ⟨?_, ?_⟩⟩
    · intro sessionId _ playerId htracked
      have hafter := hguarded.1 state hroom playerId ⟨sessionId, htracked⟩
      rw [isOpenMember_iff_joined h'] at hafter
      exact (commit_joined h.consistent hcommit (h.joined hroom ⟨sessionId, htracked⟩)).mp hafter
    · intro state hroom playerId htracks
      obtain ⟨sessionId, htracked⟩ := htracks
      have hkey := mem_keys_of_lookup htracked
      rw [isOpenMember_iff_joined h']
      exact (commit_joined h.consistent hcommit (h.joined hroom ⟨sessionId, htracked⟩)).mpr
        (htidy state hroom sessionId hkey playerId htracked)
    · intro state hroom sessionId playerId htracked _ hstays _
      rw [isOpenMember_iff_joined h']
      exact (commit_joined h.consistent hcommit (h.joined hroom ⟨sessionId, htracked⟩)).mpr hstays

theorem matchJoin_guarded_iff (h : ServerInvariant S) {sessionIds : List String}
    (hstep : ServerStep bcrypt S (.matchJoin sessionIds) S') :
    Guarded ⟨S, .matchJoin sessionIds, S'⟩ ↔ Tidy ⟨S, .matchJoin sessionIds, S'⟩ := by
  obtain ⟨state, hroom, rfl⟩ := Option.map_eq_some_iff.mp hstep
  have hid : (state.matchJoin S.db sessionIds).lobbyId = state.lobbyId := by
    unfold PersistentLobbyState.matchJoin
    dsimp only
    rw [refresh_lobbyId, PersistentLobbyState.seats_lobbyMatch]
  refine ⟨fun hguarded old hold sessionId hjoins playerId hpending => ?_, fun htidy => ⟨?_, ?_⟩⟩
  · obtain rfl : state = old := Option.some.inj (hroom.symm.trans hold)
    by_cases hempty : playerId = ""
    · exact .inl hempty
    · right
      have hpending : state.pendingPlayerIds.lookup sessionId = some playerId := hpending
      have hseated : (state.pendingPlayerIds.lookup sessionId).getD "" ≠ "" := by
        rw [hpending]
        exact hempty
      have htracked : (state.matchJoin S.db sessionIds).presences.lookup sessionId = some playerId := by
        rw [PersistentLobbyState.matchJoin_presences, if_pos ⟨hjoins, hseated⟩]
        exact hpending
      have hafter := hguarded.1 _ rfl playerId ⟨sessionId, htracked⟩
      rw [hid] at hafter
      exact hafter
  · rintro next hnext playerId ⟨sessionId, htracked⟩
    obtain rfl := Option.some.inj hnext
    rw [hid]
    rw [PersistentLobbyState.matchJoin_presences] at htracked
    by_cases hjoins : sessionId ∈ sessionIds ∧ (state.pendingPlayerIds.lookup sessionId).getD "" ≠ ""
    · rw [if_pos hjoins] at htracked
      refine (htidy state hroom sessionId hjoins.1 playerId htracked).resolve_left fun hempty => ?_
      rw [htracked] at hjoins
      exact hjoins.2 hempty
    · rw [if_neg hjoins] at htracked
      exact h.tracked state hroom playerId ⟨sessionId, htracked⟩
  · exact fun _ _ _ _ _ _ _ hmember => hmember

/-- Where nobody of whom a session is gone has another one, a session that stays is of somebody who
has not departed. -/
theorem not_departed {draws : Draws} {departures : List Departure} {db : Db} {sessionId : String}
    (hfits : (LobbyCall.matchLeave draws departures).Fits state db)
    (htracked : state.presences.lookup sessionId = some playerId)
    (hstays : sessionId ∉ departures.map (·.sessionId)) :
    ¬ ∃ departure ∈ departures, state.presences.lookup departure.sessionId = some playerId := by
  rintro ⟨departure, hgone, hplayer⟩
  have hkey := mem_keys_of_lookup htracked
  exact hstays (hfits departure hgone playerId hplayer sessionId hkey htracked)

theorem matchLeave_guarded_iff (h : ServerInvariant S) (h' : Consistent S'.db) {draws : Draws}
    {departures : List Departure} (hanswers : StoreAnswers ⟨S, .matchLeave draws departures, S'⟩)
    (hstep : ServerStep bcrypt S (.matchLeave draws departures) S') :
    Guarded ⟨S, .matchLeave draws departures, S'⟩ ↔ Tidy ⟨S, .matchLeave draws departures, S'⟩ := by
  obtain ⟨state, hroom, rfl⟩ := Option.map_eq_some_iff.mp hstep
  have hflush := hanswers state hroom
  unfold LobbyCall.Flushes at hflush
  dsimp only at hflush
  cases hleft : (departures.foldl PersistentLobbyState.unseat state).flushPendingLeaves draws S.db with
  | error e =>
    rw [hleft] at hflush
    cases hflush
  | ok flushed =>
    obtain ⟨closed, lobbyMatch, db⟩ := flushed
    have hresult : state.matchLeave draws S.db departures = (if closed = true then none else
        some { departures.foldl PersistentLobbyState.unseat state with toLobbyMatch := lobbyMatch }, db) := by
      unfold PersistentLobbyState.matchLeave
      dsimp only
      rw [hleft]
    have hold : (departures.foldl PersistentLobbyState.unseat state).lobbyId = state.lobbyId := by
      rw [PersistentLobbyState.unseats_lobbyMatch]
      rfl
    obtain ⟨hid, -, hwrites⟩ := flushPendingLeaves_writes hleft
    -- the flush takes out the players of whom a tracked session is gone
    have hjoined : ∀ playerId, Joined state.lobbyId playerId db.lobbyMembership ↔
        Joined state.lobbyId playerId S.db.lobbyMembership ∧ ¬ ∃ departure ∈ departures,
          state.presences.lookup departure.sessionId = some playerId := by
      intro playerId
      rw [← hold, hwrites h.consistent playerId, PersistentLobbyState.unseats_pendingLeaves,
        AList.mem_keys, h.flushed state hroom]
      simp
    rw [hresult] at h' ⊢
    refine ⟨?_, fun htidy => ⟨?_, ?_⟩⟩
    · rintro hguarded old hstate departure hgone playerId hplayer sessionId - htracked
      obtain rfl : state = old := Option.some.inj (hroom.symm.trans hstate)
      by_contra hstays
      have hbefore := h.tracked state hroom playerId ⟨sessionId, htracked⟩
      have hafter := hguarded.2 state hroom sessionId playerId htracked hstays id hbefore
      rw [isOpenMember_iff_joined h', hjoined] at hafter
      exact hafter.2 ⟨departure, hgone, hplayer⟩
    · rintro next hnext playerId ⟨sessionId, htracked⟩
      by_cases hclosed : closed = true
      · simp only [if_pos hclosed] at hnext
        cases hnext
      · simp only [if_neg hclosed] at hnext
        obtain rfl := Option.some.inj hnext
        rw [PersistentLobbyState.unseats_presences] at htracked
        by_cases hgone : sessionId ∈ departures.map (·.sessionId)
        · rw [if_pos hgone] at htracked
          cases htracked
        · rw [if_neg hgone] at htracked
          show isOpenMember lobbyMatch.lobbyId playerId db = true
          rw [isOpenMember_iff_joined h', hid, hold, hjoined]
          exact ⟨h.joined hroom ⟨sessionId, htracked⟩,
            not_departed (htidy state hroom) htracked hgone⟩
    · intro old hstate sessionId playerId htracked hstays _ _
      obtain rfl : state = old := Option.some.inj (hroom.symm.trans hstate)
      show isOpenMember state.lobbyId playerId db = true
      rw [isOpenMember_iff_joined h', hjoined]
      exact ⟨h.joined hroom ⟨sessionId, htracked⟩,
        not_departed (htidy state hroom) htracked hstays⟩

theorem matchLoop_guarded (h : ServerInvariant S) {draws : Draws} {messages : List MatchData}
    (hstep : ServerStep bcrypt S (.matchLoop draws messages) S') :
    Guarded ⟨S, .matchLoop draws messages, S'⟩ := by
  obtain ⟨state, hroom, rfl⟩ := Option.map_eq_some_iff.mp hstep
  let tracked : List LobbyPresence := state.presences.entries.map fun entry => ⟨entry.1, entry.2⟩
  have hlooped : (state.toLobbyMatch.matchLoop draws S.db tracked messages).2 = S.db ∧
      ∀ next ∈ (state.toLobbyMatch.matchLoop draws S.db tracked messages).1,
        next.lobbyId = state.lobbyId ∧ next.pendingLeaves = state.pendingLeaves :=
    matchLoop_of_flushed (h.flushed state hroom)
  obtain ⟨hdb, hkeeps⟩ := hlooped
  refine guarded_of_quiet h hdb fun next hnext sessionId playerId htracked => ?_
  obtain ⟨lobbyMatch, hlooped, rfl⟩ := Option.mem_map.mp hnext
  exact ⟨state, hroom, (hkeeps lobbyMatch hlooped).1, htracked⟩

theorem matchInit_guarded (h : ServerInvariant S) {round : Option MatchRound}
    (hstep : ServerStep bcrypt S (.matchInit lobbyId round) S') :
    Guarded ⟨S, .matchInit lobbyId round, S'⟩ := by
  simp only [ServerStep, LobbyServer.perform] at hstep
  cases hroom : S.room with
  | some state =>
    rw [hroom] at hstep
    cases hstep
  | none =>
    rw [hroom] at hstep
    obtain ⟨lobbyMatch, -, rfl⟩ := Option.map_eq_some_iff.mp hstep
    refine guarded_of_quiet h rfl fun next hnext sessionId playerId htracked => ?_
    obtain rfl := Option.some.inj hnext
    cases htracked

theorem matchJoinAttempt_guarded (h : ServerInvariant S) {sessionId : String}
    {identity : Option String} (hstep : ServerStep bcrypt S (.matchJoinAttempt sessionId identity) S') :
    Guarded ⟨S, .matchJoinAttempt sessionId identity, S'⟩ := by
  obtain ⟨state, hroom, rfl⟩ := Option.map_eq_some_iff.mp hstep
  cases hattempt : state.matchJoinAttempt S.db sessionId identity with
  | error reason =>
    exact guarded_of_quiet h rfl fun next hnext other playerId htracked => ⟨next, hnext, rfl, htracked⟩
  | ok admitted =>
    refine guarded_of_quiet h rfl fun next hnext other playerId htracked => ?_
    obtain rfl := Option.some.inj hnext
    obtain ⟨hmatch, hpresences⟩ := matchJoinAttempt_keeps hattempt
    rw [hpresences] at htracked
    exact ⟨state, hroom, congrArg LobbyMatch.lobbyId hmatch, htracked⟩

theorem matchSignal_guarded (h : ServerInvariant S) (h' : Consistent S'.db) {draws : Draws}
    {signal : LobbySignal} (hstep : ServerStep bcrypt S (.matchSignal draws signal) S') :
    Guarded ⟨S, .matchSignal draws signal, S'⟩ := by
  obtain ⟨state, hroom, rfl⟩ := Option.map_eq_some_iff.mp hstep
  have hcall : Handles bcrypt state.toLobbyMatch S.db _ _ :=
    matchSignal_handles draws state.toLobbyMatch S.db signal
  have hwrites : SignalWrites bcrypt state.toLobbyMatch S.db signal
    (state.toLobbyMatch.matchSignal draws S.db signal) := matchSignal_writes signal
  -- a tracked player whom the signal does not take out stays a member
  have hstays : ∀ sessionId playerId, state.presences.lookup sessionId = some playerId →
      ¬ (signal.leaver = some playerId ∧
        ∃ response, (state.toLobbyMatch.matchSignal draws S.db signal).answer = .ok response) →
      isOpenMember state.lobbyId playerId (state.matchSignal draws S.db signal).2.2 = true := by
    intro sessionId playerId htracked hnot
    have hjoined := h.joined hroom ⟨sessionId, htracked⟩
    rw [isOpenMember_iff_joined h']
    rcases hwrites.writes with hsame | ⟨c, hcommit, hexpels⟩
    · show Joined state.lobbyId playerId (state.toLobbyMatch.matchSignal draws S.db signal).db.lobbyMembership
      rw [hsame]
      exact hjoined
    · exact (commit_joined h.consistent hcommit hjoined).mpr fun hc => hnot (hexpels _ _ hc)
  refine ⟨?_, ?_⟩
  · rintro next hnext playerId ⟨sessionId, htracked⟩
    have hmem : next.toLobbyMatch ∈ (state.toLobbyMatch.matchSignal draws S.db signal).lobbyMatch := by
      rw [← matchSignal_lobbyMatch]
      exact Option.mem_map_of_mem _ hnext
    obtain ⟨hold, hnot⟩ := matchSignal_presences hnext htracked
    rw [(hcall.refreshed _ hmem).1]
    exact hstays sessionId playerId hold hnot
  · intro old hstate sessionId playerId htracked _ hleaves _
    obtain rfl : state = old := Option.some.inj (hroom.symm.trans hstate)
    refine hstays sessionId playerId htracked fun hleft => hleaves ?_
    obtain ⟨reason, rfl⟩ := leaver_eq_some hleft.1
    rfl

/-- **One call is guarded exactly when it is tidy.** -/
theorem guarded_iff_tidy (h : ServerInvariant S) (hanswers : StoreAnswers ⟨S, call, S'⟩)
    (hstep : ServerStep bcrypt S call S') : Guarded ⟨S, call, S'⟩ ↔ Tidy ⟨S, call, S'⟩ := by
  have h' : Consistent S'.db := (step_base h.base hstep).consistent
  cases call with
  | other event => exact other_guarded_iff h h' hstep
  | matchInit lobbyId round => exact ⟨fun _ _ _ => trivial, fun _ => matchInit_guarded h hstep⟩
  | matchJoinAttempt sessionId identity =>
    exact ⟨fun _ _ _ => trivial, fun _ => matchJoinAttempt_guarded h hstep⟩
  | matchJoin sessionIds => exact matchJoin_guarded_iff h hstep
  | matchLeave draws departures => exact matchLeave_guarded_iff h h' hanswers hstep
  | matchLoop draws messages => exact ⟨fun _ _ _ => trivial, fun _ => matchLoop_guarded h hstep⟩
  | matchSignal draws signal => exact ⟨fun _ _ _ => trivial, fun _ => matchSignal_guarded h h' hstep⟩

theorem ServerInvariant.step (h : ServerInvariant S) (hanswers : StoreAnswers ⟨S, call, S'⟩)
    (hguarded : Guarded ⟨S, call, S'⟩) (hstep : ServerStep bcrypt S call S') : ServerInvariant S' where
  base := step_base h.base hstep
  flushed := step_flushed h.flushed hanswers hstep
  tracked := hguarded.1

end Calls

/-! ### Runs of the server -/

section Runs

variable {bcrypt : PasswordCheck} {S : LobbyServer}

theorem noRoom_invariant (versions : List (String × MapVersionStatus)) :
    ServerInvariant (noRoom versions) where
  base := noMatch_invariant versions
  flushed := fun _ h => by cases h
  tracked := fun _ h => by cases h

/-- **The sessions agree with the lobby along a run exactly when nothing slips between them**: with a
store that does not fail, every tracked presence is of a member of the lobby and no tracked player
is taken out of it but by their own leave command, if and only if every session joins while its
player is still a member, a session that is gone was the only one of its player, and leave commands
of tracked players go through the match. -/
theorem presences_guarded_iff {versions : List (String × MapVersionStatus)}
    {ts : List (Transition LobbyServer LobbyCall)} (hrun : Run (ServerStep bcrypt) (noRoom versions) ts S)
    (hanswers : ∀ t ∈ ts, StoreAnswers t) : (∀ t ∈ ts, Guarded t) ↔ ∀ t ∈ ts, Tidy t := by
  refine ⟨fun hguarded t ht => ?_, fun htidy t ht => ?_⟩
  · have hpre := (hrun.invariant (G := fun t => StoreAnswers t ∧ Guarded t)
      (fun _ _ _ h hG hstep => h.step hG.1 hG.2 hstep) (noRoom_invariant versions)
      fun t ht => ⟨hanswers t ht, hguarded t ht⟩).2 t ht
    exact (guarded_iff_tidy hpre.1 (hanswers t ht) (hrun.step_of_mem t ht)).mp (hguarded t ht)
  · have hpre := (hrun.invariant (G := fun t => StoreAnswers t ∧ Tidy t)
      (fun _ _ _ h hG hstep => h.step hG.1 ((guarded_iff_tidy h hG.1 hstep).mpr hG.2) hstep)
      (noRoom_invariant versions) fun t ht => ⟨hanswers t ht, htidy t ht⟩).2 t ht
    exact (guarded_iff_tidy hpre.1 (hanswers t ht) (hrun.step_of_mem t ht)).mpr (htidy t ht)

instance (state : PersistentLobbyState) (db : Db) : (call : LobbyCall) → Decidable (call.Flushes state db)
  | .matchLeave _ _ | .matchLoop _ _ => inferInstanceAs (Decidable (_ = true))
  | .other _ | .matchInit _ _ | .matchJoinAttempt _ _ | .matchJoin _ | .matchSignal _ _ =>
    inferInstanceAs (Decidable True)

instance : DecidablePred StoreAnswers := fun t =>
  inferInstanceAs (Decidable (∀ state ∈ t.pre.room, t.label.Flushes state t.pre.db))

instance (state : PersistentLobbyState) (db : Db) : (call : LobbyCall) → Decidable (call.Fits state db)
  | .matchJoin sessionIds => inferInstanceAs (Decidable (∀ sessionId ∈ sessionIds,
      ∀ playerId ∈ state.pendingPlayerIds.lookup sessionId,
        playerId = "" ∨ isOpenMember state.lobbyId playerId db = true))
  | .matchLeave _ departures => inferInstanceAs (Decidable (∀ departure ∈ departures,
      ∀ playerId ∈ state.presences.lookup departure.sessionId, ∀ sessionId ∈ state.presences.keys,
        state.presences.lookup sessionId = some playerId → sessionId ∈ departures.map (·.sessionId)))
  | .other (.command c) => inferInstanceAs (Decidable (∀ sessionId ∈ state.presences.keys,
      ∀ playerId ∈ state.presences.lookup sessionId, ¬ c.Expels state.lobbyId playerId))
  | .other (.roundUpdate _) | .other (.mapVersions _) | .matchInit _ _ | .matchJoinAttempt _ _
  | .matchLoop _ _ | .matchSignal _ _ => inferInstanceAs (Decidable True)

instance : DecidablePred Tidy := fun t =>
  inferInstanceAs (Decidable (∀ state ∈ t.pre.room, t.label.Fits state t.pre.db))

/-- A host joins the match with two sessions, and some of them disconnect. -/
def twoSessionsCalls (departures : List Departure) : List LobbyCall :=
  [.other (.command (.create ⟨"l", "m1", "a1"⟩ 1 "p1" ⟨"name", .publicLobby, "", 3, "eu"⟩ "")),
    .matchInit "l" none, .matchJoinAttempt "s1" (some "p1"), .matchJoin ["s1"],
    .matchJoinAttempt "s2" (some "p1"), .matchJoin ["s2"], .matchLeave someDraws departures]

/-- With the first session of the host the whole host leaves; where both sessions go, every call is
guarded. -/
theorem presences_guarded_iff_two_sessions :
    (∃ ts S, Run (ServerStep fun _ _ => true) (noRoom []) ts S ∧
      ts.map Transition.label = twoSessionsCalls [⟨"s1", true⟩] ∧ ¬ ∀ t ∈ ts, Guarded t) ∧
    ∃ ts S, Run (ServerStep fun _ _ => true) (noRoom []) ts S ∧
      ts.map Transition.label = twoSessionsCalls [⟨"s1", true⟩, ⟨"s2", true⟩] ∧
        ∀ t ∈ ts, Guarded t := by
  constructor
  · obtain ⟨ts, S, hreplay, hanswers, htidy⟩ : ∃ ts S,
        replay (LobbyServer.perform fun _ _ => true) (noRoom []) (twoSessionsCalls [⟨"s1", true⟩]) =
          some (ts, S) ∧ (∀ t ∈ ts, StoreAnswers t) ∧ ¬ ∀ t ∈ ts, Tidy t :=
      ⟨_, _, rfl, by decide +kernel, by decide +kernel⟩
    obtain ⟨hrun, hlabels⟩ := replay_run (fun _ _ _ h => h) hreplay
    refine ⟨ts, S, hrun, hlabels, fun hguarded => htidy ?_⟩
    exact (presences_guarded_iff hrun hanswers).mp hguarded
  · obtain ⟨ts, S, hreplay, hanswers, htidy⟩ : ∃ ts S,
        replay (LobbyServer.perform fun _ _ => true) (noRoom [])
          (twoSessionsCalls [⟨"s1", true⟩, ⟨"s2", true⟩]) = some (ts, S) ∧
          (∀ t ∈ ts, StoreAnswers t) ∧ ∀ t ∈ ts, Tidy t :=
      ⟨_, _, rfl, by decide +kernel, by decide +kernel⟩
    obtain ⟨hrun, hlabels⟩ := replay_run (fun _ _ _ h => h) hreplay
    exact ⟨ts, S, hrun, hlabels, (presences_guarded_iff hrun hanswers).mpr htidy⟩

end Runs

end HiveChameleon.Nakama.Lobby
