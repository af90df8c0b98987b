import HiveChameleon.Nakama.Commit
import HiveChameleon.Nakama.LobbyCache
import HiveChameleon.Nakama.RoundRoles

/-!
# Nakama.CommittedRounds — a committed round and the match that should run it

The `start` signal commits a round before it builds the state that runs it.  The roles and slots of
the commit are always such that `newCasualRoundState` takes them; its mode is the one that the store
has locked, while the signal has looked at the mode in the cache.  The committed header is the round that
a terminal result completes later.
-/

namespace HiveChameleon.Nakama.Lobby

open Lib

/-! ### What `StartRound` commits -/

section Start

variable {db db' : Db} {roundId playerId : String} {startedAt : Time} {random : Random}
  {request : StartLobbyRequest} {snapshot : LobbySnapshot} {round : RoundSnapshot}

/-- The columns of a round that its terminal result bears on. -/
def GameRoundRow.terminal (row : GameRoundRow) : Nakama.GameRoundRow where
  id := row.id
  lobbyId := row.lobbyId
  sequenceNumber := row.sequenceNumber
  hunterCount := row.configuration.hunterCount.toNat
  status := row.status
  winningSide := row.winningSide
  resultSchemaVersion := row.resultSchemaVersion
  scoringRuleVersion := row.scoringRuleVersion
  canonicalResultSha256 := row.canonicalResultSha256
  startedAt := row.startedAt
  endedAt := row.endedAt
  abortReason := row.abortReason

def LobbyMembershipRow.terminal (row : LobbyMembershipRow) : Nakama.LobbyMembershipRow :=
  ⟨row.lobbyId, row.playerId, row.joinedAt, row.leftAt⟩

/-- Tables of terminal results with the rounds and the memberships of the lobbies. -/
structure Mirrors (game : GameDb) (db : Db) : Prop where
  rounds : game.gameRound.rows = db.gameRound.rows.map GameRoundRow.terminal
  members : game.lobbyMembership = db.lobbyMembership.rows.map LobbyMembershipRow.terminal

theorem Mirrors.open_length {game : GameDb} (h : Mirrors game db) (lobbyId : String) :
    (game.lobbyMembership.filter fun m => m.lobbyId = lobbyId && m.leftAt = none).length =
      (db.lobbyMembership.rows.filter fun m => m.lobbyId = lobbyId ∧ m.Open).length := by
  rw [h.members, List.filter_map, List.length_map]
  refine congrArg List.length (List.filter_congr fun m _ => ?_)
  rw [Bool.decide_and]
  rfl

theorem Mirrors.sequenceNumber {game : GameDb} (h : Mirrors game db) (lobbyId : String) :
    ((game.gameRound.rows.filter fun r => r.lobbyId = lobbyId).map
      (·.sequenceNumber)).foldr max 0 + 1 = nextSequenceNumber lobbyId db := by
  rw [h.rounds, List.filter_map, List.map_map]
  rfl

theorem drawRound_ready {lobbyId : String} {configuration : LobbyConfiguration}
    {drawn : String × ℕ × List RoundRoleAssignment}
    (h : drawRound lobbyId configuration random db = .ok drawn) :
    (∀ r ∈ db.gameRound.rows, r.lobbyId = lobbyId → ¬ r.Active) ∧
      configuration.hunterCount + 1 ≤
        (db.lobbyMembership.rows.filter fun m => m.lobbyId = lobbyId ∧ m.Open).length := by
  unfold drawRound at h
  split at h
  · cases h
  split at h
  · cases h
  simp only [bind_eq_ok, exists_unit, require_eq_ok] at h
  obtain ⟨-, hidle, henough, -⟩ := h
  rw [openMembers, List.length_insertionSort] at henough
  refine ⟨fun r hr hlobby hactive => ?_, henough⟩
  have hnone := List.any_eq_false.mp hidle r hr
  rw [Bool.and_eq_true, decide_eq_true_eq, decide_eq_true_eq] at hnone
  exact hnone ⟨hlobby, hactive⟩

/-- **`StartRound` as a terminal result sees it**: a start that the lobbies commit is one of the tables of
terminal results, and leaves the same rounds there. -/
theorem startRound_mirrors {game : GameDb} (hmirrors : Mirrors game db)
    (h : startRound roundId startedAt random playerId request db = .ok (snapshot, round, db')) :
    ∃ hunterCount game', Mirrors game' db' ∧
      Nakama.startRound roundId request.lobbyId hunterCount startedAt game = .ok game' := by
  simp only [startRound, bind_eq_ok, pure_eq_ok, Prod.mk.injEq] at h
  obtain ⟨⟨configuration, _⟩, -, ⟨mapVersionId, _⟩, hdraw, db₁, h₁, db₂, h₂, db₃, h₃, _, -, db₄, h₄, -, -,
    rfl⟩ := h
  obtain ⟨rfl, -⟩ := commitLobby_spec h₄
  obtain ⟨hidle, henough⟩ := drawRound_ready hdraw
  simp only [insertRound, bind_eq_ok, exists_unit, require_eq_ok, pure_eq_ok, Table.insert_eq_ok] at h₁
  obtain ⟨hchecks, -, hnumber, table, ⟨hid, hrows⟩, rfl⟩ := h₁
  simp only [updateLobby, bind_eq_ok, pure_eq_ok] at h₂
  obtain ⟨_, -, rfl⟩ := h₂
  simp only [updateMembers, bind_eq_ok, pure_eq_ok, Table.update_eq_ok] at h₃
  obtain ⟨_, ⟨-, rfl⟩, rfl⟩ := h₃
  simp only [roundChecks, bind_eq_ok, exists_unit, require_eq_ok] at hchecks
  have hhunters : 1 ≤ configuration.hunterCount ∧ configuration.hunterCount ≤ 2 := hchecks.2.1
  have henough : configuration.hunterCount + 1 ≤ (db.lobbyMembership.rows.filter fun m =>
      m.lobbyId = request.lobbyId ∧ m.Open).length := henough
  have hkeys : ((table.rows.map GameRoundRow.terminal).map (·.id)).Nodup := by
    rw [List.map_map]
    exact table.nodup_keys
  refine ⟨configuration.hunterCount.toNat,
    { game with gameRound := ⟨table.rows.map GameRoundRow.terminal, hkeys⟩ }, ⟨rfl, ?_⟩, ?_⟩
  · rw [hmirrors.members]
    show _ = (db.lobbyMembership.rows.map _).map _
    rw [List.map_map]
    refine List.map_congr_left fun m _ => ?_
    exact (Table.updated_eq (f := nominated false) (g := LobbyMembershipRow.terminal) (fun _ => rfl) m).symm
  · refine startRound_ok ?_ ?_ (hmirrors.sequenceNumber _) (by omega) ?_ ?_ ?_
    · rw [hmirrors.open_length]
      omega
    · rw [hmirrors.rounds]
      intro r hr hlobby
      obtain ⟨row, hrow, rfl⟩ := List.mem_map.mp hr
      exact or_iff_not_and_not.mpr (hidle row hrow hlobby)
    · rw [hmirrors.rounds]
      rintro r hr ⟨hlobby, hsame⟩
      obtain ⟨row, hrow, rfl⟩ := List.mem_map.mp hr
      exact hnumber row hrow hlobby hsame
    · intro r hr
      rw [Table.mem_def, hmirrors.rounds] at hr
      obtain ⟨row, hrow, rfl⟩ := List.mem_map.mp hr
      exact hid row hrow
    · show table.rows.map GameRoundRow.terminal = game.gameRound.rows ++ [_]
      rw [hrows, List.map_append, hmirrors.rounds]
      rfl

/-- The mode of the stored configuration of a lobby. -/
def storedMode (lobbyId : String) (db : Db) : Option GameMode :=
  (db.lobbyConfiguration.find? lobbyId).map (·.configuration.mode)

theorem lockHostConfiguration_stored {lobbyId : String} {expectedVersion : ℤ}
    {locked : LobbyConfiguration × ℤ}
    (h : lockHostConfiguration lobbyId playerId expectedVersion db = .ok locked) :
    ∃ row, db.lobbyConfiguration.find? lobbyId = some row ∧ row.configuration = locked.1 := by
  unfold lockHostConfiguration at h
  split at h
  · rename_i lobby assignment row _ _ hrow
    simp only [bind_eq_ok, exists_unit, pure_eq_ok] at h
    obtain ⟨-, -, -, -, rfl⟩ := h
    exact ⟨row, hrow, rfl⟩
  · cases h

theorem drawRound_spec {lobbyId : String} {configuration : LobbyConfiguration}
    {drawn : String × ℕ × List RoundRoleAssignment}
    (h : drawRound lobbyId configuration random db = .ok drawn) :
    ∃ members nominations assignments, configuration.hunterCount < (members.length : ℤ) ∧
      1 ≤ configuration.hunterCount ∧ members.Nodup ∧ (∀ p ∈ members, p ≠ "") ∧
      RolesDrawn members nominations configuration.hunterCount assignments ∧
      (configuration.mode = .casual → SlotsDrawn assignments drawn.2.2 drawn.2.1) ∧
      (configuration.mode ≠ .casual → drawn.2.2 = assignments) := by
  unfold drawRound at h
  split at h
  · cases h
  split at h
  · cases h
  simp only [bind_eq_ok, exists_unit] at h
  obtain ⟨-, -, -, ⟨assignments, rest⟩, hroles, h⟩ := h
  obtain ⟨hcount, hnames, hnodup, hdrawn⟩ := selectRoundRoles_spec hroles
  refine ⟨_, _, assignments, hcount.2, hcount.1, hnodup, hnames, hdrawn, fun hmode => ?_, fun hmode => ?_⟩
  · rw [if_pos hmode] at h
    simp only [bind_eq_ok, pure_eq_ok] at h
    obtain ⟨⟨targetSlotCount, seated⟩, hslots, rfl⟩ := h
    exact (assignCasualHidingSlots_spec hslots).2
  · rw [if_neg hmode] at h
    obtain rfl := pure_eq_ok.mp h
    rfl

/-- What `StartRound` returns: the draw for the stored configuration, which passes the checks of a
round. -/
theorem startRound_drawn
    (h : startRound roundId startedAt random playerId request db = .ok (snapshot, round, db')) :
    ∃ row mapVersionId targetSlotCount, db.lobbyConfiguration.find? request.lobbyId = some row ∧
      drawRound request.lobbyId row.configuration random db =
        .ok (mapVersionId, targetSlotCount, round.roleAssignments) ∧
      round.id = roundId ∧ round.mode = row.configuration.mode.text ∧
      round.targetSlotCount = targetSlotCount ∧ 0 < round.hidingDurationSeconds ∧
      0 < round.huntingDurationSeconds ∧ 0 < round.shellLimit ∧ 0 < round.reloadDurationMs := by
  simp only [startRound, bind_eq_ok, pure_eq_ok, Prod.mk.injEq] at h
  obtain ⟨⟨configuration, maxPlayers⟩, hlock, ⟨mapVersionId, targetSlotCount, assignments⟩, hdraw, db₁,
    h₁, _, -, _, -, _, -, _, -, -, rfl, -⟩ := h
  obtain ⟨row, hrow, rfl⟩ := lockHostConfiguration_stored hlock
  simp only [insertRound, roundChecks, roundHeader, bind_eq_ok, exists_unit, require_eq_ok] at h₁
  obtain ⟨⟨-, -, htimes, -, hweapon, -⟩, -⟩ := h₁
  obtain ⟨hhiding, hhunting⟩ := require_eq_ok.mp htimes
  obtain ⟨hshells, hreload⟩ := require_eq_ok.mp hweapon
  exact ⟨row, mapVersionId, targetSlotCount, hrow, hdraw, rfl, rfl, rfl, hhiding, hhunting, hshells,
    hreload⟩

theorem RolesDrawn.hider {members nominations : List String} {hunterCount : ℤ}
    {assignments : List RoundRoleAssignment} (h : RolesDrawn members nominations hunterCount assignments)
    (hcount : hunterCount < members.length) : hiders assignments ≠ [] := by
  intro hnone
  have hall : assignments.filter (fun a => a.role = .hunter) = assignments := by
    refine List.filter_eq_self.mpr fun a ha => decide_eq_true ?_
    refine (h.roles a ha).resolve_left fun hrole => ?_
    have hmem : a ∈ hiders assignments := List.mem_filter.mpr ⟨ha, decide_eq_true hrole⟩
    rw [hnone] at hmem
    exact absurd hmem List.not_mem_nil
  have hlength := congrArg List.length h.members
  have hhunters := h.hunters
  rw [List.length_map] at hlength
  rw [hall] at hhunters
  omega

theorem RolesDrawn.hunter {members nominations : List String} {hunterCount : ℤ}
    {assignments : List RoundRoleAssignment} (h : RolesDrawn members nominations hunterCount assignments)
    (hcount : 1 ≤ hunterCount) : ∃ a ∈ assignments, a.role = .hunter := by
  have hhunters := h.hunters
  have hpos : 0 < (assignments.filter fun a => a.role = .hunter).length := by omega
  obtain ⟨a, ha⟩ := List.exists_mem_of_length_pos hpos
  exact ⟨a, List.mem_of_mem_filter ha, of_decide_eq_true (List.mem_filter.mp ha).2⟩

theorem SlotsDrawn.exists_of_mem {assignments seated : List RoundRoleAssignment} {targetSlotCount : ℕ}
    (h : SlotsDrawn assignments seated targetSlotCount) {a : RoundRoleAssignment} (ha : a ∈ assignments) :
    ∃ b ∈ seated, b.playerId = a.playerId ∧ b.role = a.role := by
  have hmem : unslotted a ∈ seated.map unslotted := by
    rw [h.kept]
    exact List.mem_map_of_mem ha
  obtain ⟨b, hb, hsame⟩ := List.mem_map.mp hmem
  simp only [unslotted, Prod.mk.injEq] at hsame
  exact ⟨b, hb, hsame.1, hsame.2.1⟩

theorem SlotsDrawn.mem_exists {assignments seated : List RoundRoleAssignment} {targetSlotCount : ℕ}
    (h : SlotsDrawn assignments seated targetSlotCount) {b : RoundRoleAssignment} (hb : b ∈ seated) :
    ∃ a ∈ assignments, b.playerId = a.playerId ∧ b.role = a.role := by
  have hmem : unslotted b ∈ assignments.map unslotted := by
    rw [← h.kept]
    exact List.mem_map_of_mem hb
  obtain ⟨a, ha, hsame⟩ := List.mem_map.mp hmem
  simp only [unslotted, Prod.mk.injEq] at hsame
  exact ⟨a, ha, hsame.1.symm, hsame.2.1.symm⟩

theorem SlotsDrawn.players {assignments seated : List RoundRoleAssignment} {targetSlotCount : ℕ}
    (h : SlotsDrawn assignments seated targetSlotCount) :
    seated.map (·.playerId) = assignments.map (·.playerId) := by
  have hkept := congrArg (List.map Prod.fst) h.kept
  rw [List.map_map, List.map_map] at hkept
  exact hkept

/-- **A committed Casual round can be run.** -/
theorem startRound_runs (hid : roundId ≠ "") (hmode : storedMode request.lobbyId db = some .casual)
    (h : startRound roundId startedAt random playerId request db = .ok (snapshot, round, db')) :
    ∃ s, newCasualRoundState round = .ok s := by
  obtain ⟨row, _, targetSlotCount, hrow, hdraw, hroundId, htext, htarget, hhiding, hhunting, hshells,
    hreload⟩ := startRound_drawn h
  have hcasual : row.configuration.mode = .casual := by
    unfold storedMode at hmode
    rw [hrow] at hmode
    exact Option.some.inj hmode
  obtain ⟨members, nominations, assignments, hfewer, hone, hnodup, hnames, hroles, hslots, -⟩ :=
    drawRound_spec hdraw
  have hslots : SlotsDrawn assignments round.roleAssignments targetSlotCount := hslots hcasual
  refine newCasualRoundState_ok (hroundId ▸ hid) ?_ ⟨hhiding, hhunting, hshells, hreload⟩
    ⟨?_, fun b hb => ?_, fun b hb => ?_, hslots.distinct, ?_⟩ ?_ ?_
  · rw [htext, hcasual]
    rfl
  · rw [hslots.players, hroles.members]
    exact hnodup
  · obtain ⟨a, ha, hplayer, -⟩ := hslots.mem_exists hb
    rw [hplayer]
    refine hnames _ ?_
    rw [← hroles.members]
    exact List.mem_map_of_mem ha
  · obtain ⟨a, ha, -, hrole⟩ := hslots.mem_exists hb
    rw [hrole]
    exact hroles.roles a ha
  · rw [htarget]
    exact hslots.range
  · obtain ⟨a, ha, hhunter⟩ := hroles.hunter hone
    obtain ⟨b, hb, -, hrole⟩ := hslots.exists_of_mem ha
    exact ⟨b, hb, hrole.trans hhunter⟩
  · obtain ⟨a, ha⟩ := List.exists_mem_of_ne_nil _ (hroles.hider hfewer)
    obtain ⟨ha, hhider⟩ := List.mem_filter.mp ha
    obtain ⟨b, hb, -, hrole⟩ := hslots.exists_of_mem ha
    have hmem : b ∈ hiders round.roleAssignments :=
      List.mem_filter.mpr ⟨hb, decide_eq_true (hrole.trans (of_decide_eq_true hhider))⟩
    exact List.ne_nil_of_mem hmem

theorem seatAssignments_slots : ∀ {assignments : List RoundRoleAssignment} {s s' : CasualRoundState},
    seatAssignments round s assignments = .ok s' → ∀ a ∈ hiders assignments, 1 ≤ a.hidingSlot
  | [], _, _, _, _, ha => absurd ha List.not_mem_nil
  | a :: assignments, s, s', h, b, hb => by
    obtain ⟨mid, hseat, h⟩ := seatAssignments_cons.mp h
    obtain ⟨hb, hhider⟩ := List.mem_filter.mp hb
    rcases List.mem_cons.mp hb with rfl | hrest
    · obtain ⟨-, -, ⟨hhunter, -⟩ | ⟨-, hrange, -⟩⟩ := seatAssignment_eq_ok.mp hseat
      · rw [hhunter] at hhider
        cases of_decide_eq_true hhider
      · exact hrange.1
    · exact seatAssignments_slots h b (List.mem_filter.mpr ⟨hrest, hhider⟩)

theorem startRound_stuck (hmode : storedMode request.lobbyId db ≠ some .casual)
    (h : startRound roundId startedAt random playerId request db = .ok (snapshot, round, db')) :
    ∃ e, newCasualRoundState round = .error e := by
  obtain ⟨row, _, targetSlotCount, hrow, hdraw, -⟩ := startRound_drawn h
  have hother : row.configuration.mode ≠ .casual := by
    intro hcasual
    unfold storedMode at hmode
    rw [hrow, Option.map_some, hcasual] at hmode
    exact hmode rfl
  obtain ⟨members, nominations, assignments, hfewer, -, -, -, hroles, -, hsame⟩ := drawRound_spec hdraw
  have hsame : round.roleAssignments = assignments := hsame hother
  cases hstate : newCasualRoundState round with
  | error e => exact ⟨e, rfl⟩
  | ok s =>
    obtain ⟨a, ha⟩ := List.exists_mem_of_ne_nil _ (hroles.hider hfewer)
    have hzero := hroles.unseated a (List.mem_filter.mp ha).1
    unfold newCasualRoundState at hstate
    split at hstate
    · cases hstate
    split at hstate
    · cases hstate
    split at hstate
    · cases hstate
    · rename_i seated hseated
      rw [hsame] at hseated
      have hslot := seatAssignments_slots hseated a ha
      omega

end Start

/-! ### The `start` signal -/

/-- The signal reaches the store: it is for the lobby of the match, no round has started, and the
cached mode is Casual. -/
def LobbyMatch.ReachesStore (m : LobbyMatch) (request : StartLobbyRequest) : Prop :=
  request.lobbyId = m.lobbyId ∧ m.round.isSome = false ∧ m.snapshot.configuration.mode = .casual

/-- The match runs the round that was committed, and says so. -/
def Answered.Runs (answered : Answered) (round : RoundSnapshot) : Prop :=
  ∃ next casualRound response, answered.lobbyMatch = some next ∧ answered.answer = .ok response ∧
    newCasualRoundState round = .ok casualRound ∧ next.casualRound = some casualRound ∧
    next.round.map (·.id) = some round.id ∧ response.startAccepted = true

section Signal

variable {bcrypt : PasswordCheck} {S : LobbySystem} {m : LobbyMatch} {draws : Draws} {db db' : Db}
  {playerId : String} {request : StartLobbyRequest} {snapshot : LobbySnapshot} {round : RoundSnapshot}

theorem signalStart_runs_iff (hreaches : m.ReachesStore request)
    (hstart : startRound draws.roundId.1 draws.now draws.random playerId request db =
      .ok (snapshot, round, db')) :
    (m.matchSignal draws db (.start playerId (some request))).Runs round ↔
      ∃ s, newCasualRoundState round = .ok s := by
  obtain ⟨hid, hround, hmode⟩ := hreaches
  have hround : ¬ m.round.isSome = true := by
    rw [hround]
    exact Bool.false_ne_true
  unfold LobbyMatch.matchSignal LobbyMatch.signalStart
  dsimp only
  rw [if_neg (not_not.mpr hid), if_neg hround, if_neg (not_not.mpr hmode), hstart]
  dsimp only
  cases hstate : newCasualRoundState round with
  | error e =>
    refine ⟨?_, fun ⟨s, hs⟩ => by cases hs⟩
    rintro ⟨next, casualRound, response, -, hanswer, -⟩
    cases hanswer
  | ok casualRound => exact ⟨fun _ => ⟨_, rfl⟩, fun _ => ⟨_, _, _, rfl, rfl, hstate, rfl, rfl, rfl⟩⟩

/-- **The roles and the slots are always well drawn, and a committed round is run exactly when the
stored mode is Casual.** -/
theorem committed_round_runs_iff (hreaches : m.ReachesStore request)
    (hstart : startRound draws.roundId.1 draws.now draws.random playerId request db =
      .ok (snapshot, round, db')) :
    (∀ members nominations hunterCount random, members.Nodup → (∀ p ∈ members, p ≠ "") →
      1 ≤ hunterCount → hunterCount < (members.length : ℤ) →
        (members.length ≤ random.length →
          ∃ drawn, selectRoundRoles members nominations hunterCount random = .ok drawn) ∧
        ∀ drawn, selectRoundRoles members nominations hunterCount random = .ok drawn →
          RolesDrawn members nominations hunterCount drawn.1) ∧
    (∀ assignments random, hiders assignments ≠ [] →
      (assignments.length + 2 ≤ random.length →
        ∃ drawn, assignCasualHidingSlots assignments random = .ok drawn) ∧
      ∀ drawn, assignCasualHidingSlots assignments random = .ok drawn →
        SlotsDrawn assignments drawn.2 drawn.1) ∧
    ((m.matchSignal draws db (.start playerId (some request))).Runs round ↔
      storedMode m.lobbyId db = some .casual) := by
  refine ⟨fun members nominations hunterCount random hnodup hnames hone hfewer => ⟨fun henough => ?_,
    fun drawn h => (selectRoundRoles_spec h).2.2.2⟩, fun assignments random hhiders =>
    ⟨fun henough => assignCasualHidingSlots_ok hhiders henough,
      fun drawn h => (assignCasualHidingSlots_spec h).2⟩, ?_⟩
  · obtain ⟨drawn, hdrawn, -⟩ := selectRoundRoles_ok hnodup hnames ⟨hone, hfewer⟩ henough
    exact ⟨drawn, hdrawn⟩
  · rw [signalStart_runs_iff hreaches hstart, ← hreaches.1]
    refine ⟨fun ⟨s, hs⟩ => ?_, fun hmode => ?_⟩
    · by_contra hmode
      obtain ⟨e, he⟩ := startRound_stuck hmode hstart
      rw [hs] at he
      cases he
    · have hid : draws.roundId.1 ≠ "" := by
        intro hempty
        have hcanonical := draws.roundId.2
        rw [hempty] at hcanonical
        exact absurd hcanonical (by decide)
      exact startRound_runs hid hmode hstart

end Signal

/-- Two players are in the lobby of a match; a map is selected, by the match or by another writer. -/
def startLabels (request : UpdateLobbyConfigurationRequest) (own : Bool) (draws : Draws) :
    List MatchLabel :=
  [.other (.mapVersions [("01890000-0000-7000-8000-000000000000", .published)]),
    .other (.command (.create ⟨"l", "m1", "a1"⟩ 1 "p1" ⟨"name", .publicLobby, "", 3, "eu"⟩ "")),
    .other (.command (.join "m2" 2 "p2" ⟨"l", "", .serverBrowser⟩)),
    .init "l" none,
    if own = true then .signal draws (.updateConfiguration "p1" (some request))
    else .other (.command (.updateConfiguration 3 "p1" request))]

/-- A configuration of a mode with the published map. -/
def selectMap (mode : GameMode) : UpdateLobbyConfigurationRequest :=
  ⟨"l", 2, some mode, some "01890000-0000-7000-8000-000000000000", none, none, none, none, none, none,
    none, none, none⟩

def startDraws : Draws where
  assignmentId := "a2"
  now := 4
  roundId := ⟨"01890000-0000-7000-8000-000000000001", by decide⟩
  random := [1, 2, 3, 4, 5, 6, 7, 8, 9, 10]

/-- The host starts the round that its match knows about: it runs. -/
theorem committed_round_runs_casual :
    ∃ ts S m snapshot round db', Run (MatchStep fun _ _ => true) (noMatch []) ts S ∧
      S.lobbyMatch = some m ∧
      startRound startDraws.roundId.1 startDraws.now startDraws.random "p1" ⟨"l", 3⟩ S.db =
        .ok (snapshot, round, db') ∧
      (m.matchSignal startDraws S.db (.start "p1" (some ⟨"l", 3⟩))).Runs round := by
  obtain ⟨ts, S, m, snapshot, round, db', hreplay, hm, hstart, hid, hround, hmode, hstored⟩ :
      ∃ ts S m snapshot round db', replay (LobbySystem.perform fun _ _ => true) (noMatch [])
          (startLabels (selectMap .casual) true startDraws) = some (ts, S) ∧ S.lobbyMatch = some m ∧
        startRound startDraws.roundId.1 startDraws.now startDraws.random "p1" ⟨"l", 3⟩ S.db =
          .ok (snapshot, round, db') ∧ m.lobbyId = "l" ∧ m.round.isSome = false ∧
        m.snapshot.configuration.mode = .casual ∧ storedMode "l" S.db = some .casual :=
    ⟨_, _, _, _, _, _, rfl, rfl, rfl, rfl, rfl, rfl, rfl⟩
  have hreaches : m.ReachesStore ⟨"l", 3⟩ := ⟨hid.symm, hround, hmode⟩
  refine ⟨ts, S, m, snapshot, round, db', (replay_run (fun _ _ _ h => h) hreplay).1, hm, hstart, ?_⟩
  exact (committed_round_runs_iff hreaches hstart).2.2.mpr (hid ▸ hstored)

/-- Another writer has made the lobby one of infection: the round is committed, and no match runs
it. -/
theorem committed_round_stuck :
    ∃ ts S m snapshot round db', Run (MatchStep fun _ _ => true) (noMatch []) ts S ∧
      S.lobbyMatch = some m ∧ m.ReachesStore ⟨"l", 3⟩ ∧
      startRound startDraws.roundId.1 startDraws.now startDraws.random "p1" ⟨"l", 3⟩ S.db =
        .ok (snapshot, round, db') ∧
      activeRoundExists "l" db' = true ∧
      (m.matchSignal startDraws S.db (.start "p1" (some ⟨"l", 3⟩))).db.gameRound.rows =
        db'.gameRound.rows ∧
      ¬ (m.matchSignal startDraws S.db (.start "p1" (some ⟨"l", 3⟩))).Runs round := by
  obtain ⟨ts, S, m, snapshot, round, db', hreplay, hm, hstart, hid, hround, hmode, hactive, hrows,
      hstate⟩ :
      ∃ ts S m snapshot round db', replay (LobbySystem.perform fun _ _ => true) (noMatch [])
          (startLabels (selectMap .infection) false startDraws) = some (ts, S) ∧ S.lobbyMatch = some m ∧
        startRound startDraws.roundId.1 startDraws.now startDraws.random "p1" ⟨"l", 3⟩ S.db =
          .ok (snapshot, round, db') ∧ m.lobbyId = "l" ∧ m.round.isSome = false ∧
        m.snapshot.configuration.mode = .casual ∧ activeRoundExists "l" db' = true ∧
        (m.matchSignal startDraws S.db (.start "p1" (some ⟨"l", 3⟩))).db.gameRound.rows =
          db'.gameRound.rows ∧ newCasualRoundState round = .error "valid Casual round is required" :=
    ⟨_, _, _, _, _, _, rfl, rfl, rfl, rfl, rfl, rfl, rfl, rfl, rfl⟩
  have hreaches : m.ReachesStore ⟨"l", 3⟩ := ⟨hid.symm, hround, hmode⟩
  refine ⟨ts, S, m, snapshot, round, db', (replay_run (fun _ _ _ h => h) hreplay).1, hm, hreaches, hstart,
    hactive, hrows, fun hruns => ?_⟩
  obtain ⟨s, hs⟩ := (signalStart_runs_iff hreaches hstart).mp hruns
  rw [hstate] at hs
  cases hs

end HiveChameleon.Nakama.Lobby
