import HiveChameleon.Nakama.LobbyConsistency

/-!
# Nakama.LobbyGuarantees — every run of lobby commands

Each of the six commands keeps the lobbies consistent (`…_keeps`), hence so does every interleaving
of committed commands with the updates of active rounds that the matches make.
-/

namespace HiveChameleon.Nakama.Lobby

open Lib

section Keeps

variable {lobbyId : String} {f : LobbyView → LobbyView} {db db' : Db}

theorem Keeps.refl (h : Consistent db) : Keeps db db :=
  ⟨fun _ => .inl rfl, h.onePlayer⟩

theorem Keeps.of_changes (h : Changes lobbyId f db db')
    (hprogresses : Progresses (view lobbyId db) (f (view lobbyId db)))
    (hone : OnePlayer db'.lobbyMembership) : Keeps db db' := by
  refine ⟨fun id => ?_, hone⟩
  by_cases hid : id = lobbyId
  · right
    rw [hid, h.own]
    exact hprogresses
  · exact .inl (h.others id hid)

theorem Keeps.consistent (hc : Consistent db) (h : Keeps db db') : Consistent db' := by
  refine ⟨fun id => ?_, h.onePlayer⟩
  rcases h.lobbies id with heq | hprogresses
  · rw [heq]
    exact hc.lobbies id
  · exact hprogresses.consistent

theorem Keeps.advances (h : Keeps db db') (id : String) : Advances (view id db) (view id db') := by
  rcases h.lobbies id with heq | hprogresses
  · exact fun hne => absurd heq hne
  · exact hprogresses.advances

theorem Keeps.succession (hc : Consistent db) (h : Keeps db db') (id : String) :
    Succession (view id db) (view id db') := by
  rcases h.lobbies id with heq | hprogresses
  · rw [heq]
    intro lobby hlobby lobby' hlobby' hopen _
    obtain rfl : lobby = lobby' := Option.some.inj (hlobby.symm.trans hlobby')
    refine ⟨fun _ => rfl, fun hnone => ?_⟩
    obtain ⟨-, m, hm, hplayer⟩ := (hc.lobbies id).hosted lobby hlobby hopen
    exact absurd hplayer (hnone m hm)
  · exact hprogresses.succession

end Keeps

/-! ### One open membership a player -/

section OnePlayer

variable {db db' : Db}

theorem onePlayer_insert {row : LobbyMembershipRow} (hone : OnePlayer db.lobbyMembership)
    (hnew : row.Open → ∀ m ∈ db.lobbyMembership, m.Open → m.playerId ≠ row.playerId)
    (hrows : db'.lobbyMembership.rows = db.lobbyMembership.rows ++ [row]) :
    OnePlayer db'.lobbyMembership := by
  have hmem : ∀ m, m ∈ db'.lobbyMembership → m ∈ db.lobbyMembership ∨ m = row := by
    intro m hm
    rw [Table.mem_def, hrows, List.mem_append, List.mem_singleton] at hm
    exact hm
  intro m hm m' hm' hopen hopen' hplayer
  rcases hmem m hm with hm | rfl <;> rcases hmem m' hm' with hm' | rfl
  · exact hone m hm m' hm' hopen hopen' hplayer
  · exact absurd hplayer (hnew hopen' m hm hopen)
  · exact absurd hplayer.symm (hnew hopen m' hm' hopen')
  · rfl

/-- An update that opens no membership and moves none to another player. -/
theorem onePlayer_modify {p : LobbyMembershipRow → Prop} [DecidablePred p]
    {set : Table.Assignment LobbyMembershipRow.id} (hone : OnePlayer db.lobbyMembership)
    (hopen : ∀ m : LobbyMembershipRow, (set m).Open → m.Open)
    (hplayer : ∀ m : LobbyMembershipRow, (set m).playerId = m.playerId) :
    OnePlayer (db.lobbyMembership.modify p set) := by
  have hback : ∀ m : LobbyMembershipRow, (Table.updated p set m).Open → m.Open := by
    intro m h
    by_cases hp : p m
    · rw [Table.updated_of hp] at h
      exact hopen m h
    · rwa [Table.updated_of_not hp] at h
  intro m hm m' hm' hmo hmo' heq
  obtain ⟨a, ha, rfl⟩ := Table.mem_modify.mp hm
  obtain ⟨b, hb, rfl⟩ := Table.mem_modify.mp hm'
  rw [Table.updated_eq (g := LobbyMembershipRow.playerId) hplayer,
    Table.updated_eq (g := LobbyMembershipRow.playerId) hplayer] at heq
  rw [hone a ha b hb (hback a hmo) (hback b hmo') heq]

end OnePlayer

/-! ### The commands -/

section Commands

open LobbyView

variable {db db' : Db} {snapshot : LobbySnapshot}

theorem create_keeps {draw : CreateDraw} {now : Time} {playerId : String}
    {request : CreateLobbyRequest} {passwordHash : String} (hc : Consistent db)
    (h : create draw now playerId request passwordHash db = .ok (snapshot, db')) :
    Keeps db db' := by
  unfold create at h
  cases hcurrent : openMembership playerId db with
  | some existing =>
    rw [hcurrent] at h
    simp only [bind_eq_ok, pure_eq_ok, Prod.mk.injEq] at h
    obtain ⟨_, -, -, rfl⟩ := h
    exact .refl hc
  | none =>
    rw [hcurrent] at h
    simp only [bind_eq_ok, exists_unit, pure_eq_ok, Prod.mk.injEq] at h
    obtain ⟨-, db₁, h₁, db₂, h₂, db₃, h₃, db₄, h₄, _, -, db₅, h₅, -, rfl⟩ := h
    obtain ⟨hmax, habsent, hc₁, hm₁⟩ := insertLobby_spec h₁
    obtain ⟨hnew, hc₂, hm₂⟩ := insertMembership_spec h₂
    obtain ⟨hc₃, hm₃⟩ := insertHostAssignment_spec h₃
    obtain ⟨hc₄, hm₄⟩ := insertConfiguration_spec h₄
    obtain ⟨rfl, hhosted⟩ := commitLobby_spec h₅
    have hchanges : Changes draw.lobbyId _ db db₅ := ((hc₁.trans hc₂).trans hc₃).trans hc₄
    have hlobby : (view draw.lobbyId db).lobby = none := habsent
    obtain ⟨hmemberships, hrounds⟩ := (hc.lobbies draw.lobbyId).absent hlobby
    refine .of_changes hchanges ⟨?_, ?_, ?_⟩ ?_
    · have hmembers : (view draw.lobbyId db₅).openMembers =
          [creatorMembership draw now playerId] := by
        rw [hchanges.own]
        show ((view draw.lobbyId db).memberships ++ [_]).filter _ = _
        rw [hmemberships]
        rfl
      have hidle : (view draw.lobbyId db₅).activeRounds = [] := by
        rw [hchanges.own]
        show (view draw.lobbyId db).rounds.filter _ = _
        rw [hrounds]
        rfl
      rw [← hchanges.own]
      refine consistent_of_open (by rw [hchanges.own]; rfl) rfl hhosted ?_ ?_
      · show ((view draw.lobbyId db₅).openMembers.length : ℤ) ≤ request.maxPlayers
        have hmax : 2 ≤ request.maxPlayers := hmax
        rw [hmembers, List.length_singleton]
        omega
      · show (view draw.lobbyId db₅).activeRounds.length ≤ 1
        rw [hidle]
        exact Nat.zero_le 1
    · intro _ row hrow
      rw [hlobby] at hrow
      cases hrow
    · intro row hrow
      rw [hlobby] at hrow
      cases hrow
    · rw [hm₄, hm₃]
      rw [hm₁] at hnew hm₂
      exact onePlayer_insert hc.onePlayer hnew hm₂

theorem join_keeps {bcrypt : PasswordCheck} {membershipId : String} {transactionTime : Time}
    {playerId : String} {request : JoinLobbyRequest} (hc : Consistent db)
    (h : join bcrypt membershipId transactionTime playerId request db = .ok (snapshot, db')) :
    Keeps db db' := by
  unfold join at h
  cases hfind : db.lobby.find? request.lobbyId with
  | none =>
    rw [hfind] at h
    cases h
  | some lobby =>
    rw [hfind] at h
    simp only [bind_eq_ok, exists_unit, require_eq_ok] at h
    obtain ⟨hopen, -, h⟩ := h
    cases hcurrent : openMembership playerId db with
    | some current =>
      rw [hcurrent] at h
      simp only [bind_eq_ok, exists_unit, pure_eq_ok, Prod.mk.injEq] at h
      obtain ⟨-, _, -, -, rfl⟩ := h
      exact .refl hc
    | none =>
      rw [hcurrent] at h
      simp only [bind_eq_ok, exists_unit, require_eq_ok, pure_eq_ok, Prod.mk.injEq] at h
      obtain ⟨hspace, -, db₁, h₁, db₂, h₂, _, -, db₃, h₃, -, rfl⟩ := h
      obtain ⟨hnew, hc₁, hm₁⟩ := insertMembership_spec h₁
      obtain ⟨hc₂, hm₂⟩ := updateLobby_spec h₂
      obtain ⟨rfl, hhosted⟩ := commitLobby_spec h₃
      have hchanges : Changes request.lobbyId _ db db₃ := hc₁.trans hc₂
      have hlobby : (view request.lobbyId db).lobby = some lobby := hfind
      have hrow : (joinMembership membershipId transactionTime playerId request).Open := rfl
      refine .of_changes hchanges ?_ ?_
      · rw [hchanges.own] at hhosted
        refine progresses_of_advance hlobby hopen ?_ hhosted ?_ ?_
        · show (view request.lobbyId db).lobby.map _ = _
          rw [hlobby]
          rfl
        · show ((addMembership _ (view request.lobbyId db)).openMembers.length : ℤ) ≤ _
          rw [openMembers_addMembership hrow, List.length_append, List.length_singleton]
          rw [openMembers_eq, List.length_insertionSort] at hspace
          omega
        · exact (hc.lobbies request.lobbyId).oneRound
      · rw [hm₂]
        exact onePlayer_insert hc.onePlayer hnew hm₁

/-- Only an open lobby has a configuration that its host may lock. -/
theorem lockHostConfiguration_spec {lobbyId playerId : String} {expectedVersion : ℤ}
    {locked : LobbyConfiguration × ℤ}
    (h : lockHostConfiguration lobbyId playerId expectedVersion db = .ok locked) :
    ∃ lobby, (view lobbyId db).lobby = some lobby ∧ lobby.closedAt = none := by
  unfold lockHostConfiguration at h
  split at h
  · rename_i lobby _ _ hfind _ _
    simp only [bind_eq_ok, exists_unit, require_eq_ok] at h
    exact ⟨lobby, hfind, h.1⟩
  · cases h

theorem updateConfiguration_keeps {now : Time} {playerId : String}
    {request : UpdateLobbyConfigurationRequest} (hc : Consistent db)
    (h : updateConfiguration now playerId request db = .ok (snapshot, db')) : Keeps db db' := by
  simp only [updateConfiguration, bind_eq_ok, exists_unit, pure_eq_ok, Prod.mk.injEq] at h
  obtain ⟨_, hlock, -, _, -, db₁, h₁, db₂, h₂, _, -, db₃, h₃, -, rfl⟩ := h
  obtain ⟨lobby, hlobby, hopen⟩ := lockHostConfiguration_spec hlock
  obtain ⟨hc₁, hm₁⟩ := updateLobbyConfiguration_spec h₁
  obtain ⟨hc₂, hm₂⟩ := updateLobby_spec h₂
  obtain ⟨rfl, hhosted⟩ := commitLobby_spec h₃
  have hchanges := hc₁.trans hc₂
  refine .of_changes hchanges ?_ ?_
  · rw [hchanges.own] at hhosted
    refine progresses_of_advance hlobby hopen ?_ hhosted
      ((hc.lobbies request.lobbyId).capacity lobby hlobby) (hc.lobbies request.lobbyId).oneRound
    show (view request.lobbyId db).lobby.map _ = _
    rw [hlobby]
    rfl
  · rw [hm₂, hm₁]
    exact hc.onePlayer

theorem recordNominationChange_keeps {playerId : String} {request : NominateHunterRequest}
    (hc : Consistent db)
    (h : recordNominationChange playerId request db = .ok (snapshot, db')) : Keeps db db' := by
  unfold recordNominationChange at h
  cases hfind : db.lobby.find? request.lobbyId with
  | none =>
    rw [hfind] at h
    cases h
  | some lobby =>
    rw [hfind] at h
    simp only [bind_eq_ok, exists_unit, require_eq_ok, pure_eq_ok, Prod.mk.injEq] at h
    obtain ⟨hopen, -, -, db₁, h₁, -, db₂, h₂, _, -, db₃, h₃, -, rfl⟩ := h
    obtain ⟨hc₁, hm₁⟩ := updateMembers_spec (fun _ => rfl) h₁
    obtain ⟨hc₂, hm₂⟩ := updateLobby_spec h₂
    obtain ⟨rfl, hhosted⟩ := commitLobby_spec h₃
    have hchanges := hc₁.trans hc₂
    have hlobby : (view request.lobbyId db).lobby = some lobby := hfind
    refine .of_changes hchanges ?_ ?_
    · rw [hchanges.own] at hhosted
      refine progresses_of_advance hlobby hopen ?_ hhosted ?_
        (hc.lobbies request.lobbyId).oneRound
      · show (view request.lobbyId db).lobby.map _ = _
        rw [hlobby]
        rfl
      · show ((setMembers _ _ (view request.lobbyId db)).openMembers.length : ℤ) ≤ _
        rw [length_openMembers_setMembers fun _ => rfl]
        exact (hc.lobbies request.lobbyId).capacity lobby hlobby
    · rw [hm₂, hm₁]
      exact onePlayer_modify hc.onePlayer (fun _ h => h) fun _ => rfl

/-- A round starts only where none is active. -/
theorem drawRound_idle {lobbyId : String} {configuration : LobbyConfiguration} {random : Random}
    {drawn : String × ℕ × List RoundRoleAssignment}
    (h : drawRound lobbyId configuration random db = .ok drawn) :
    (view lobbyId db).activeRounds = [] := by
  unfold drawRound at h
  split at h
  · cases h
  · split at h
    · cases h
    · simp only [bind_eq_ok, exists_unit, require_eq_ok] at h
      exact activeRoundExists_eq_false.mp h.2.1

theorem roundHeader_active {roundId lobbyId mapVersionId : String} {sequenceNumber : ℕ}
    {configuration : LobbyConfiguration} {startedAt : Time} :
    (roundHeader roundId lobbyId sequenceNumber configuration mapVersionId startedAt).Active := by
  show RoundStatus.preparing ≠ .completed ∧ RoundStatus.preparing ≠ .aborted
  exact ⟨nofun, nofun⟩

theorem startRound_keeps {roundId : String} {startedAt : Time} {random : Random}
    {playerId : String} {request : StartLobbyRequest} {round : RoundSnapshot} (hc : Consistent db)
    (h : startRound roundId startedAt random playerId request db = .ok (snapshot, round, db')) :
    Keeps db db' := by
  simp only [startRound, bind_eq_ok, pure_eq_ok, Prod.mk.injEq] at h
  obtain ⟨_, hlock, _, hdraw, db₁, h₁, db₂, h₂, db₃, h₃, _, -, db₄, h₄, -, -, rfl⟩ := h
  obtain ⟨lobby, hlobby, hopen⟩ := lockHostConfiguration_spec hlock
  have hidle := drawRound_idle hdraw
  obtain ⟨hc₁, hm₁⟩ := insertRound_spec h₁
  obtain ⟨hc₂, hm₂⟩ := updateLobby_spec h₂
  obtain ⟨hc₃, hm₃⟩ := updateMembers_spec (fun _ => rfl) h₃
  obtain ⟨rfl, hhosted⟩ := commitLobby_spec h₄
  have hchanges : Changes request.lobbyId _ db db₄ := (hc₁.trans hc₂).trans hc₃
  refine .of_changes hchanges ?_ ?_
  · rw [hchanges.own] at hhosted
    refine progresses_of_advance hlobby hopen ?_ hhosted ?_ ?_
    · show (view request.lobbyId db).lobby.map _ = _
      rw [hlobby]
      rfl
    · show ((setMembers _ _ (view request.lobbyId db)).openMembers.length : ℤ) ≤ _
      rw [length_openMembers_setMembers fun _ => rfl]
      exact (hc.lobbies request.lobbyId).capacity lobby hlobby
    · show (addRound _ (view request.lobbyId db)).activeRounds.length ≤ 1
      rw [activeRounds_addRound roundHeader_active, hidle]
      exact Nat.le_refl 1
  · rw [hm₃, hm₂, hm₁]
    exact onePlayer_modify hc.onePlayer (fun _ h => h) fun _ => rfl

/-! ### Leaving -/

/-- The lobby of a departed host: closed when nobody is left, else of the earliest member. -/
theorem replaceHost_spec {assignmentId lobbyId : String} {now : Time}
    {hostReason : HostAssignmentReason} {closed : Bool}
    (h : replaceHost assignmentId now lobbyId hostReason db = .ok (closed, db')) :
    db'.lobbyMembership = db.lobbyMembership ∧
      ((view lobbyId db).openMembers = [] ∧
        Changes lobbyId (fun v => LobbyView.abortRounds now (setLobby (closedBy now)
          (endAssignments now v))) db db' ∨
      ∃ m row, Earliest (view lobbyId db) m ∧
        Changes lobbyId (fun v => setLobby (hostedBy m.playerId)
          (addAssignment row (endAssignments now v))) db db') := by
  simp only [replaceHost, bind_eq_ok, exists_unit, require_eq_ok] at h
  obtain ⟨-, db₁, h₁, h⟩ := h
  obtain ⟨hc₁, hm₁⟩ := endHostAssignment_spec h₁
  have hopen : (view lobbyId db₁).openMembers = (view lobbyId db).openMembers := by
    rw [hc₁.own]
    rfl
  cases hmembers : openMembers lobbyId db₁ with
  | nil =>
    rw [hmembers] at h
    simp only [bind_eq_ok, pure_eq_ok, Prod.mk.injEq] at h
    obtain ⟨db₂, h₂, db₃, h₃, -, rfl⟩ := h
    obtain ⟨hc₂, hm₂⟩ := updateLobby_spec h₂
    obtain ⟨hc₃, hm₃⟩ := abortRounds_spec h₃
    refine ⟨by rw [hm₃, hm₂, hm₁], .inl ⟨?_, (hc₁.trans hc₂).trans hc₃⟩⟩
    rw [openMembers_eq, hopen] at hmembers
    have hlength := congrArg List.length hmembers
    rw [List.length_insertionSort] at hlength
    exact List.eq_nil_of_length_eq_zero hlength
  | cons replacement rest =>
    rw [hmembers] at h
    simp only [bind_eq_ok, pure_eq_ok, Prod.mk.injEq] at h
    obtain ⟨db₂, h₂, db₃, h₃, -, rfl⟩ := h
    obtain ⟨hc₂, hm₂⟩ := insertHostAssignment_spec h₂
    obtain ⟨hc₃, hm₃⟩ := updateLobby_spec h₃
    rw [openMembers_eq, hopen] at hmembers
    exact ⟨by rw [hm₃, hm₂, hm₁],
      .inr ⟨replacement, _, earliest_of_sorted hmembers, (hc₁.trans hc₂).trans hc₃⟩⟩

section Leave

variable {v v' : LobbyView} {lobby : LobbyRow} {now : Time}

theorem progresses_of_close (hlobby : v.lobby = some lobby)
    (hlobby' : v'.lobby = some (closedBy now lobby)) (hcapacity : (0 : ℤ) ≤ lobby.maxPlayers)
    (hmembers : v'.openMembers = [])
    (hrounds : v'.activeRounds = []) : Progresses v v' := by
  have hsame : ∀ row ∈ v'.lobby, row = closedBy now lobby := by
    intro row hrow
    rw [hlobby'] at hrow
    exact (Option.some.inj hrow).symm
  have hclosed : (closedBy now lobby).closedAt ≠ none := nofun
  refine ⟨⟨fun hnone => ?_, fun row hrow hopen => ?_, fun row hrow => ?_, fun row hrow => ?_,
    fun _ _ _ => hrounds, ?_⟩, fun _ row hrow => ?_, fun row hrow row' hrow' _ hopen => ?_⟩
  · rw [hlobby'] at hnone
    cases hnone
  · rw [hsame row hrow] at hopen
    exact absurd hopen hclosed
  · rw [hsame row hrow, hmembers]
    exact hcapacity
  · rw [hsame row hrow]
    exact ⟨fun _ => hmembers, fun _ => hclosed⟩
  · rw [hrounds]
    exact Nat.zero_le 1
  · rw [hlobby] at hrow
    obtain rfl := Option.some.inj hrow
    refine ⟨_, hlobby', ?_⟩
    show lobby.rowVersion < lobby.rowVersion + 1
    omega
  · rw [hsame row' hrow'] at hopen
    exact absurd hopen hclosed

theorem progresses_of_succession {m : LobbyMembershipRow} (hlobby : v.lobby = some lobby)
    (hopen : lobby.closedAt = none) (hlobby' : v'.lobby = some (hostedBy m.playerId lobby))
    (hhosted : v'.Hosted) (hcapacity : (v'.openMembers.length : ℤ) ≤ lobby.maxPlayers)
    (hrounds : v'.activeRounds.length ≤ 1) (hearliest : Earliest v' m)
    (hgone : ∀ m ∈ v'.openMembers, m.playerId ≠ lobby.currentHostPlayerId) : Progresses v v' := by
  refine ⟨consistent_of_open hlobby' hopen hhosted hcapacity hrounds, fun _ row hrow => ?_, ?_⟩
  · rw [hlobby] at hrow
    obtain rfl := Option.some.inj hrow
    refine ⟨_, hlobby', ?_⟩
    show lobby.rowVersion < lobby.rowVersion + 1
    omega
  · intro row hrow row' hrow' _ _
    rw [hlobby] at hrow
    rw [hlobby'] at hrow'
    obtain rfl := Option.some.inj hrow
    obtain rfl := Option.some.inj hrow'
    exact ⟨fun ⟨m', hm', hplayer⟩ => absurd hplayer (hgone m' hm'), fun _ => ⟨m, hearliest, rfl⟩⟩

end Leave

theorem leave_keeps {assignmentId lobbyId : String} {now : Time} {playerIds : List String}
    {hostReason : HostAssignmentReason} {closed : Bool} (hc : Consistent db)
    (h : leave assignmentId now lobbyId playerIds hostReason db = .ok (snapshot, closed, db')) :
    Keeps db db' := by
  unfold leave at h
  cases hfind : db.lobby.find? lobbyId with
  | none =>
    rw [hfind] at h
    cases h
  | some lobby =>
    have hlobby : (view lobbyId db).lobby = some lobby := hfind
    simp only [hfind] at h
    by_cases hclosed : lobby.closedAt ≠ none
    · rw [if_pos hclosed] at h
      simp only [bind_eq_ok, pure_eq_ok, Prod.mk.injEq] at h
      obtain ⟨_, -, -, -, rfl⟩ := h
      exact .refl hc
    rw [if_neg hclosed] at h
    have hopen : lobby.closedAt = none := not_not.mp hclosed
    by_cases hnone : departing lobbyId playerIds db = []
    · rw [if_pos hnone] at h
      simp only [bind_eq_ok, pure_eq_ok, Prod.mk.injEq] at h
      obtain ⟨_, -, -, -, rfl⟩ := h
      exact .refl hc
    rw [if_neg hnone] at h
    simp only [bind_eq_ok, pure_eq_ok, Prod.mk.injEq] at h
    obtain ⟨db₁, h₁, ⟨closed', db₂⟩, h₂, _, -, db₃, h₃, -, -, rfl⟩ := h
    obtain ⟨hc₁, hm₁⟩ := updateMembers_spec (fun _ => rfl) h₁
    obtain ⟨rfl, hhosted⟩ := commitLobby_spec h₃
    have hone : OnePlayer db₁.lobbyMembership := by
      rw [hm₁]
      exact onePlayer_modify hc.onePlayer (fun _ h => by cases h) fun _ => rfl
    have hcapacity : ((view lobbyId db₁).openMembers.length : ℤ) ≤ lobby.maxPlayers := by
      have hbefore := (hc.lobbies lobbyId).capacity lobby hlobby
      have hfewer := List.length_filter_le
        (fun m : LobbyMembershipRow => decide ¬ m.playerId ∈ playerIds)
        (view lobbyId db).openMembers
      rw [hc₁.own, openMembers_leave]
      omega
    have hrounds : (view lobbyId db₁).activeRounds.length ≤ 1 := by
      rw [hc₁.own]
      exact (hc.lobbies lobbyId).oneRound
    have hlobby₁ : (view lobbyId db₁).lobby = some lobby := by
      rw [hc₁.own]
      exact hlobby
    by_cases hhost : lobby.currentHostPlayerId ∈ departing lobbyId playerIds db
    · rw [if_pos hhost] at h₂
      obtain ⟨hm₂, hcases⟩ := replaceHost_spec h₂
      rcases hcases with ⟨hempty, hc₂⟩ | ⟨m, row, hearliest, hc₂⟩
      · refine .of_changes (hc₁.trans hc₂) ?_ (hm₂ ▸ hone)
        rw [← hc₁.own]
        have hlobby' : (setLobby (closedBy now) (view lobbyId db₁)).lobby =
            some (closedBy now lobby) := by
          show (view lobbyId db₁).lobby.map _ = _
          rw [hlobby₁]
          rfl
        rw [hempty] at hcapacity
        exact progresses_of_close hlobby hlobby' hcapacity hempty (activeRounds_abortRounds now _)
      · refine .of_changes (hc₁.trans hc₂) ?_ (hm₂ ▸ hone)
        rw [hc₂.own] at hhosted
        rw [← hc₁.own]
        refine progresses_of_succession hlobby hopen ?_ hhosted hcapacity hrounds hearliest ?_
        · show (view lobbyId db₁).lobby.map _ = _
          rw [hlobby₁]
          rfl
        · -- every open membership of a departing player is closed, the host's included
          intro m' hm' hplayer
          have hm' : m' ∈ (view lobbyId db₁).openMembers := hm'
          rw [hc₁.own, openMembers_leave, List.mem_filter, decide_eq_true_eq] at hm'
          obtain ⟨host, hhost, hid⟩ := List.mem_map.mp hhost
          have hin := (List.mem_filter.mp hhost).2
          rw [decide_eq_true_eq] at hin
          exact hm'.2 (by rw [hplayer, ← hid]; exact hin.2.1)
    · rw [if_neg hhost] at h₂
      simp only [bind_eq_ok, pure_eq_ok, Prod.mk.injEq] at h₂
      obtain ⟨db₄, h₄, -, rfl⟩ := h₂
      obtain ⟨hc₂, hm₂⟩ := updateLobby_spec h₄
      refine .of_changes (hc₁.trans hc₂) ?_ (hm₂ ▸ hone)
      rw [hc₂.own] at hhosted
      rw [← hc₁.own]
      refine progresses_of_advance hlobby hopen ?_ hhosted hcapacity hrounds
      show (view lobbyId db₁).lobby.map _ = _
      rw [hlobby₁]
      rfl

end Commands

/-! ### Runs -/

inductive LobbyCommand where
  | create (draw : CreateDraw) (now : Time) (playerId : String) (request : CreateLobbyRequest)
      (passwordHash : String)
  | join (membershipId : String) (transactionTime : Time) (playerId : String)
      (request : JoinLobbyRequest)
  | leave (assignmentId : String) (now : Time) (lobbyId : String) (playerIds : List String)
      (hostReason : HostAssignmentReason)
  | updateConfiguration (now : Time) (playerId : String) (request : UpdateLobbyConfigurationRequest)
  | recordNominationChange (playerId : String) (request : NominateHunterRequest)
  | startRound (roundId : String) (startedAt : Time) (random : Random) (playerId : String)
      (request : StartLobbyRequest)

/-- The database that a command commits. -/
def LobbyCommand.commit (bcrypt : PasswordCheck) (db : Db) : LobbyCommand → Except LobbyError Db
  | create draw now playerId request passwordHash => do
    let (_, db) ← Lobby.create draw now playerId request passwordHash db
    pure db
  | join membershipId transactionTime playerId request => do
    let (_, db) ← Lobby.join bcrypt membershipId transactionTime playerId request db
    pure db
  | leave assignmentId now lobbyId playerIds hostReason => do
    let (_, _, db) ← Lobby.leave assignmentId now lobbyId playerIds hostReason db
    pure db
  | updateConfiguration now playerId request => do
    let (_, db) ← Lobby.updateConfiguration now playerId request db
    pure db
  | recordNominationChange playerId request => do
    let (_, db) ← Lobby.recordNominationChange playerId request db
    pure db
  | startRound roundId startedAt random playerId request => do
    let (_, _, db) ← Lobby.startRound roundId startedAt random playerId request db
    pure db

/-- An `UPDATE` of one round by a match: `UpdateRoundPhase` and the commit of a terminal result. -/
structure RoundUpdate where
  roundId : String
  set : Table.Assignment GameRoundRow.id
  keepsLobby : ∀ row, (set row).lobbyId = row.lobbyId

/-- What commits: a command, a match's update of a round that is still active, or other versions
of the maps. -/
inductive LobbyEvent where
  | command (c : LobbyCommand)
  | roundUpdate (update : RoundUpdate)
  | mapVersions (versions : List (String × MapVersionStatus))

def updateRound (update : RoundUpdate) (db : Db) : Db :=
  { db with
    gameRound := db.gameRound.modify (fun row => row.id = update.roundId ∧ row.Active) update.set }

def perform (bcrypt : PasswordCheck) (db : Db) : LobbyEvent → Option Db
  | .command c => (c.commit bcrypt db).toOption
  | .roundUpdate update => some (updateRound update db)
  | .mapVersions versions => some { db with mapVersion := versions }

def LobbyStep (bcrypt : PasswordCheck) (db : Db) (event : LobbyEvent) (db' : Db) : Prop :=
  perform bcrypt db event = some db'

/-- No lobby has been created yet. -/
def noLobbies (versions : List (String × MapVersionStatus)) : Db where
  lobby := .empty
  lobbyMembership := .empty
  lobbyHostAssignment := .empty
  lobbyConfiguration := .empty
  gameRound := .empty
  mapVersion := versions

theorem consistent_noLobbies (versions : List (String × MapVersionStatus)) :
    Consistent (noLobbies versions) :=
  ⟨fun _ => ⟨fun _ => ⟨rfl, rfl⟩, nofun, nofun, nofun, nofun, Nat.zero_le 1⟩,
    fun _ h => absurd h Table.not_mem_empty⟩

section Runs

variable {bcrypt : PasswordCheck} {db db' : Db}

/-- **Every committed command keeps the lobbies.** -/
theorem commit_keeps {c : LobbyCommand} (hc : Consistent db)
    (h : perform bcrypt db (.command c) = some db') : Keeps db db' := by
  have hcommit : c.commit bcrypt db = .ok db' := by
    change (c.commit bcrypt db).toOption = some db' at h
    cases hresult : c.commit bcrypt db with
    | error e =>
      rw [hresult] at h
      cases h
    | ok db₁ =>
      rw [hresult] at h
      rw [Option.some.inj h]
  cases c with
  | create draw now playerId request passwordHash =>
    simp only [LobbyCommand.commit, bind_eq_ok, pure_eq_ok] at hcommit
    obtain ⟨⟨_, _⟩, hdone, rfl⟩ := hcommit
    exact create_keeps hc hdone
  | join membershipId transactionTime playerId request =>
    simp only [LobbyCommand.commit, bind_eq_ok, pure_eq_ok] at hcommit
    obtain ⟨⟨_, _⟩, hdone, rfl⟩ := hcommit
    exact join_keeps hc hdone
  | leave assignmentId now lobbyId playerIds hostReason =>
    simp only [LobbyCommand.commit, bind_eq_ok, pure_eq_ok] at hcommit
    obtain ⟨⟨_, _, _⟩, hdone, rfl⟩ := hcommit
    exact leave_keeps hc hdone
  | updateConfiguration now playerId request =>
    simp only [LobbyCommand.commit, bind_eq_ok, pure_eq_ok] at hcommit
    obtain ⟨⟨_, _⟩, hdone, rfl⟩ := hcommit
    exact updateConfiguration_keeps hc hdone
  | recordNominationChange playerId request =>
    simp only [LobbyCommand.commit, bind_eq_ok, pure_eq_ok] at hcommit
    obtain ⟨⟨_, _⟩, hdone, rfl⟩ := hcommit
    exact recordNominationChange_keeps hc hdone
  | startRound roundId startedAt random playerId request =>
    simp only [LobbyCommand.commit, bind_eq_ok, pure_eq_ok] at hcommit
    obtain ⟨⟨_, _, _⟩, hdone, rfl⟩ := hcommit
    exact startRound_keeps hc hdone

/-- A match's update activates no round. -/
theorem roundUpdate_consistent {update : RoundUpdate} (hc : Consistent db)
    (h : perform bcrypt db (.roundUpdate update) = some db') : Consistent db' := by
  obtain rfl := Option.some.inj h
  refine ⟨fun id => ?_, hc.onePlayer⟩
  have hold := hc.lobbies id
  have hrounds : (view id (updateRound update db)).rounds = (view id db).rounds.map
        (Table.updated (fun row => row.id = update.roundId ∧ row.Active) update.set) :=
    Table.filter_modify fun row => by rw [update.keepsLobby]
  have hfewer : (view id (updateRound update db)).activeRounds.length ≤
      (view id db).activeRounds.length := by
    rw [LobbyView.activeRounds, hrounds, List.filter_map, List.length_map]
    refine (List.monotone_filter_right _ fun r hr => ?_).length_le
    rw [Function.comp_apply, decide_eq_true_eq] at hr
    by_cases hp : r.id = update.roundId ∧ r.Active
    · exact decide_eq_true hp.2
    · rw [Table.updated_of_not (p := fun row : GameRoundRow =>
        row.id = update.roundId ∧ row.Active) hp] at hr
      exact decide_eq_true hr
  refine ⟨fun hnone => ?_, hold.hosted, hold.capacity, hold.closed, fun row hrow hclosed => ?_,
    hfewer.trans hold.oneRound⟩
  · obtain ⟨hmemberships, hnorounds⟩ := hold.absent hnone
    refine ⟨hmemberships, ?_⟩
    rw [hrounds, hnorounds]
    rfl
  · have hidle := hold.idle row hrow hclosed
    rw [hidle] at hfewer
    exact List.eq_nil_of_length_eq_zero (Nat.le_zero.mp hfewer)

theorem step_consistent {event : LobbyEvent} (hc : Consistent db)
    (h : LobbyStep bcrypt db event db') : Consistent db' := by
  cases event with
  | command c => exact (commit_keeps hc h).consistent hc
  | roundUpdate update => exact roundUpdate_consistent hc h
  | mapVersions versions =>
    obtain rfl := Option.some.inj h
    exact ⟨hc.lobbies, hc.onePlayer⟩

end Runs

/-- **The lobbies stay consistent**, whatever commands commit in whatever order; a command that
changes a lobby increases its version, and a departed host is succeeded by the earliest member. -/
theorem lobbies_stay_consistent {bcrypt : PasswordCheck}
    {versions : List (String × MapVersionStatus)} {ts : List (Transition Db LobbyEvent)} {db : Db}
    (hrun : Run (LobbyStep bcrypt) (noLobbies versions) ts db) :
    Consistent db ∧ ∀ t ∈ ts, Consistent t.pre ∧ Consistent t.post ∧
      ∀ c, t.label = .command c → ∀ lobbyId,
        Advances (view lobbyId t.pre) (view lobbyId t.post) ∧
          Succession (view lobbyId t.pre) (view lobbyId t.post) := by
  obtain ⟨hfinal, hall⟩ := hrun.invariant' (fun _ _ _ hc h => step_consistent hc h)
    (consistent_noLobbies versions)
  refine ⟨hfinal, fun t ht => ⟨(hall t ht).1, (hall t ht).2, fun c hlabel lobbyId => ?_⟩⟩
  have hstep := hrun.step_of_mem t ht
  rw [hlabel] at hstep
  have hkeeps := commit_keeps (hall t ht).1 hstep
  exact ⟨hkeeps.advances lobbyId, hkeeps.succession (hall t ht).1 lobbyId⟩

/-- Two players join, the host leaves, the round of the others starts, and all leave. -/
def exampleEvents : List LobbyEvent :=
  let mapVersionId := "01890000-0000-7000-8000-000000000000"
  [.mapVersions [(mapVersionId, .published)],
   .command (.create ⟨"l", "m1", "a1"⟩ 1 "p1" ⟨"name", .publicLobby, "", 3, "eu"⟩ ""),
   .command (.join "m2" 2 "p2" ⟨"l", "", .serverBrowser⟩),
   .command (.join "m3" 3 "p3" ⟨"l", "", .serverBrowser⟩),
   .command (.leave "a2" 4 "l" ["p1"] .hostLeft),
   .command (.updateConfiguration 5 "p2" ⟨"l", 4, none, some mapVersionId, none, none, none, none,
     none, none, none, none, none⟩),
   .command (.recordNominationChange "p3" ⟨"l", 5, true⟩),
   .command (.startRound "r" 6 [1, 2, 3, 4, 5, 6, 7, 8, 9, 10] "p2" ⟨"l", 6⟩),
   .command (.leave "a3" 7 "l" ["p2", "p3"] .hostDisconnected)]

theorem lobbies_stay_consistent_example :
    ∃ ts db, Run (LobbyStep fun _ _ => true) (noLobbies []) ts db ∧
      ts.map Transition.label = exampleEvents ∧ Consistent db := by
  obtain ⟨⟨ts, db⟩, hreplay⟩ := Option.isSome_iff_exists.mp
    (show (replay (perform fun _ _ => true) (noLobbies []) exampleEvents).isSome = true by
      decide +kernel)
  obtain ⟨hrun, hlabels⟩ := replay_run (fun _ _ _ h => h) hreplay
  exact ⟨ts, db, hrun, hlabels, (lobbies_stay_consistent hrun).1⟩

end HiveChameleon.Nakama.Lobby
