import HiveChameleon.Nakama.Nominations

/-!
# Nakama.Membership — who the commands take out of a lobby

Whether a player is an open member of a lobby is a matter of one table, and of all commands only
`Leave` takes a member out: exactly the players that it names.
-/

namespace HiveChameleon.Nakama.Lobby

open Lib

/-- A row of `game.lobby_membership` says that the player is in the lobby. -/
def Joined (lobbyId playerId : String) (memberships : Table LobbyMembershipRow (·.id)) : Prop :=
  ∃ m ∈ memberships, m.lobbyId = lobbyId ∧ m.playerId = playerId ∧ m.Open

/-- The command names the player among those who leave the lobby. -/
def LobbyCommand.Expels (lobbyId playerId : String) : LobbyCommand → Prop
  | leave _ _ id playerIds _ => id = lobbyId ∧ playerId ∈ playerIds
  | _ => False

instance (lobbyId playerId : String) (c : LobbyCommand) : Decidable (c.Expels lobbyId playerId) :=
  match c with
  | .leave _ _ id playerIds _ => inferInstanceAs (Decidable (id = lobbyId ∧ playerId ∈ playerIds))
  | .create _ _ _ _ _ | .join _ _ _ _ | .updateConfiguration _ _ _ | .recordNominationChange _ _
  | .startRound _ _ _ _ _ => inferInstanceAs (Decidable False)

section Rows

variable {lobbyId playerId : String} {db : Db} {t t' : Table LobbyMembershipRow (·.id)}

/-- In consistent tables a lobby that has an open member exists and is open. -/
theorem isOpenMember_iff_joined (hc : Consistent db) :
    isOpenMember lobbyId playerId db = true ↔ Joined lobbyId playerId db.lobbyMembership := by
  rw [isOpenMember_iff]
  refine ⟨fun ⟨_, _, _, hm⟩ => hm, fun hm => ?_⟩
  obtain ⟨m, hrow, hid, hplayer, hopen⟩ := hm
  have hin : m ∈ (view lobbyId db).memberships := mem_memberships.mpr ⟨hrow, hid⟩
  have hmember : m ∈ (view lobbyId db).openMembers :=
    List.mem_filter.mpr ⟨hin, decide_eq_true hopen⟩
  cases hfind : db.lobby.find? lobbyId with
  | none =>
    have hnone := ((hc.lobbies lobbyId).absent hfind).1
    rw [hnone] at hin
    exact absurd hin List.not_mem_nil
  | some lobby =>
    refine ⟨lobby, rfl, ?_, m, hrow, hid, hplayer, hopen⟩
    by_contra hclosed
    have hempty := ((hc.lobbies lobbyId).closed lobby hfind).mp hclosed
    rw [hempty] at hmember
    exact absurd hmember List.not_mem_nil

theorem Joined.append {row : LobbyMembershipRow} (h : Joined lobbyId playerId t)
    (hrows : t'.rows = t.rows ++ [row]) : Joined lobbyId playerId t' := by
  obtain ⟨m, hm, hrest⟩ := h
  refine ⟨m, ?_, hrest⟩
  rw [Table.mem_def, hrows]
  exact List.mem_append_left _ hm

/-- An update of other columns leaves who is in the lobby. -/
theorem Joined.modify {p : LobbyMembershipRow → Prop} [DecidablePred p]
    {set : Table.Assignment LobbyMembershipRow.id} (hlobby : ∀ m, (set m).lobbyId = m.lobbyId)
    (hplayer : ∀ m, (set m).playerId = m.playerId) (hleft : ∀ m, (set m).leftAt = m.leftAt)
    (h : Joined lobbyId playerId t) : Joined lobbyId playerId (t.modify p set) := by
  obtain ⟨m, hm, hid, hname, hopen⟩ := h
  refine ⟨Table.updated p set m, Table.updated_mem_modify hm, ?_, ?_, ?_⟩
  · rw [Table.updated_eq (g := LobbyMembershipRow.lobbyId) hlobby]
    exact hid
  · rw [Table.updated_eq (g := LobbyMembershipRow.playerId) hplayer]
    exact hname
  · show (Table.updated p set m).leftAt = none
    rw [Table.updated_eq (g := LobbyMembershipRow.leftAt) hleft]
    exact hopen

/-- **A departure** takes the players that it names out of its lobby, and nobody else. -/
theorem joined_departure {id : String} {playerIds : List String} {now : Time} :
    Joined lobbyId playerId (t.modify
        (fun row => row.lobbyId = id ∧ row.playerId ∈ playerIds ∧ row.Open) (leftAt now)) ↔
      Joined lobbyId playerId t ∧ ¬ (id = lobbyId ∧ playerId ∈ playerIds) := by
  refine ⟨?_, ?_⟩
  · rintro ⟨m, hm, rfl, rfl, hopen⟩
    rcases Table.mem_modify_cases hm with ⟨old, -, -, rfl⟩ | ⟨hold, hnot⟩
    · -- a row that was written has left
      exact absurd hopen nofun
    · exact ⟨⟨m, hold, rfl, rfl, hopen⟩, fun hnamed => hnot ⟨hnamed.1.symm, hnamed.2, hopen⟩⟩
  · rintro ⟨⟨m, hm, rfl, rfl, hopen⟩, hnot⟩
    refine ⟨m, Table.mem_modify_of_not hm fun hp => hnot ⟨hp.1.symm, hp.2.1⟩, rfl, rfl, hopen⟩

end Rows

/-! ### The commands -/

section Commands

variable {bcrypt : PasswordCheck} {db db' : Db} {snapshot : LobbySnapshot}
  {lobbyId playerId : String}

theorem create_joined {draw : CreateDraw} {now : Time} {creator : String}
    {request : CreateLobbyRequest} {passwordHash : String}
    (h : create draw now creator request passwordHash db = .ok (snapshot, db'))
    (hjoined : Joined lobbyId playerId db.lobbyMembership) :
    Joined lobbyId playerId db'.lobbyMembership := by
  unfold create at h
  cases hcurrent : openMembership creator db with
  | some existing =>
    rw [hcurrent] at h
    simp only [bind_eq_ok, pure_eq_ok, Prod.mk.injEq] at h
    obtain ⟨_, -, -, rfl⟩ := h
    exact hjoined
  | none =>
    rw [hcurrent] at h
    simp only [bind_eq_ok, exists_unit, pure_eq_ok, Prod.mk.injEq] at h
    obtain ⟨-, db₁, h₁, db₂, h₂, db₃, h₃, db₄, h₄, _, -, db₅, h₅, -, rfl⟩ := h
    obtain ⟨-, -, -, hm₁⟩ := insertLobby_spec h₁
    obtain ⟨-, -, hm₂⟩ := insertMembership_spec h₂
    obtain ⟨-, hm₃⟩ := insertHostAssignment_spec h₃
    obtain ⟨-, hm₄⟩ := insertConfiguration_spec h₄
    obtain ⟨rfl, -⟩ := commitLobby_spec h₅
    rw [hm₄, hm₃]
    rw [← hm₁] at hjoined
    exact hjoined.append hm₂

theorem join_joined {membershipId : String} {transactionTime : Time} {joining : String}
    {request : JoinLobbyRequest}
    (h : join bcrypt membershipId transactionTime joining request db = .ok (snapshot, db'))
    (hjoined : Joined lobbyId playerId db.lobbyMembership) :
    Joined lobbyId playerId db'.lobbyMembership := by
  unfold join at h
  cases hfind : db.lobby.find? request.lobbyId with
  | none =>
    rw [hfind] at h
    cases h
  | some lobby =>
    rw [hfind] at h
    simp only [bind_eq_ok, exists_unit, require_eq_ok] at h
    obtain ⟨-, -, h⟩ := h
    cases hcurrent : openMembership joining db with
    | some current =>
      rw [hcurrent] at h
      simp only [bind_eq_ok, exists_unit, pure_eq_ok, Prod.mk.injEq] at h
      obtain ⟨-, _, -, -, rfl⟩ := h
      exact hjoined
    | none =>
      rw [hcurrent] at h
      simp only [bind_eq_ok, exists_unit, require_eq_ok, pure_eq_ok, Prod.mk.injEq] at h
      obtain ⟨-, -, db₁, h₁, db₂, h₂, _, -, db₃, h₃, -, rfl⟩ := h
      obtain ⟨-, -, hm₁⟩ := insertMembership_spec h₁
      obtain ⟨-, hm₂⟩ := updateLobby_spec h₂
      obtain ⟨rfl, -⟩ := commitLobby_spec h₃
      rw [hm₂]
      exact hjoined.append hm₁

/-- **`Leave` takes out the players that it names.** -/
theorem leave_joined {assignmentId id : String} {now : Time} {playerIds : List String}
    {hostReason : HostAssignmentReason} {closed : Bool} (hc : Consistent db)
    (h : leave assignmentId now id playerIds hostReason db = .ok (snapshot, closed, db')) :
    Joined lobbyId playerId db'.lobbyMembership ↔
      Joined lobbyId playerId db.lobbyMembership ∧ ¬ (id = lobbyId ∧ playerId ∈ playerIds) := by
  unfold leave at h
  cases hfind : db.lobby.find? id with
  | none =>
    rw [hfind] at h
    cases h
  | some lobby =>
    simp only [hfind] at h
    by_cases hclosed : lobby.closedAt ≠ none
    · rw [if_pos hclosed] at h
      simp only [bind_eq_ok, pure_eq_ok, Prod.mk.injEq] at h
      obtain ⟨_, -, -, -, rfl⟩ := h
      refine ⟨fun hjoined => ⟨hjoined, ?_⟩, fun hjoined => hjoined.1⟩
      -- a closed lobby has no member who could be named
      rintro ⟨rfl, -⟩
      obtain ⟨_, hsome, hopen, -⟩ := isOpenMember_iff.mp ((isOpenMember_iff_joined hc).mpr hjoined)
      rw [hfind] at hsome
      obtain rfl := Option.some.inj hsome
      exact hclosed hopen
    rw [if_neg hclosed] at h
    by_cases hnone : departing id playerIds db = []
    · rw [if_pos hnone] at h
      simp only [bind_eq_ok, pure_eq_ok, Prod.mk.injEq] at h
      obtain ⟨_, -, -, -, rfl⟩ := h
      refine ⟨fun hjoined => ⟨hjoined, ?_⟩, fun hjoined => hjoined.1⟩
      rintro ⟨rfl, hnamed⟩
      obtain ⟨m, hm, hid, rfl, hopen⟩ := hjoined
      have hdeparting : m.playerId ∈ departing id playerIds db :=
        List.mem_map_of_mem (List.mem_filter.mpr ⟨hm, decide_eq_true ⟨hid, hnamed, hopen⟩⟩)
      rw [hnone] at hdeparting
      exact absurd hdeparting List.not_mem_nil
    rw [if_neg hnone] at h
    simp only [bind_eq_ok, pure_eq_ok, Prod.mk.injEq] at h
    obtain ⟨db₁, h₁, ⟨closed', db₂⟩, h₂, _, -, db₃, h₃, -, -, rfl⟩ := h
    obtain ⟨rfl, -⟩ := commitLobby_spec h₃
    have hm₂ : db₃.lobbyMembership = db₁.lobbyMembership := by
      by_cases hhost : lobby.currentHostPlayerId ∈ departing id playerIds db
      · rw [if_pos hhost] at h₂
        exact (replaceHost_spec h₂).1
      · rw [if_neg hhost] at h₂
        simp only [bind_eq_ok, pure_eq_ok, Prod.mk.injEq] at h₂
        obtain ⟨db₄, h₄, -, rfl⟩ := h₂
        exact (updateLobby_spec h₄).2
    rw [hm₂, (updateMembers_spec (fun _ => rfl) h₁).2]
    exact joined_departure

theorem updateConfiguration_joined {now : Time} {host : String}
    {request : UpdateLobbyConfigurationRequest}
    (h : updateConfiguration now host request db = .ok (snapshot, db'))
    (hjoined : Joined lobbyId playerId db.lobbyMembership) :
    Joined lobbyId playerId db'.lobbyMembership := by
  simp only [updateConfiguration, bind_eq_ok, exists_unit, pure_eq_ok, Prod.mk.injEq] at h
  obtain ⟨_, -, -, _, -, db₁, h₁, db₂, h₂, _, -, db₃, h₃, -, rfl⟩ := h
  obtain ⟨rfl, -⟩ := commitLobby_spec h₃
  rw [(updateLobby_spec h₂).2, (updateLobbyConfiguration_spec h₁).2]
  exact hjoined

theorem recordNominationChange_joined {nominee : String} {request : NominateHunterRequest}
    (h : recordNominationChange nominee request db = .ok (snapshot, db'))
    (hjoined : Joined lobbyId playerId db.lobbyMembership) :
    Joined lobbyId playerId db'.lobbyMembership := by
  unfold recordNominationChange at h
  cases hfind : db.lobby.find? request.lobbyId with
  | none =>
    rw [hfind] at h
    cases h
  | some lobby =>
    rw [hfind] at h
    simp only [bind_eq_ok, exists_unit, pure_eq_ok, Prod.mk.injEq] at h
    obtain ⟨-, -, -, db₁, h₁, -, db₂, h₂, _, -, db₃, h₃, -, rfl⟩ := h
    obtain ⟨rfl, -⟩ := commitLobby_spec h₃
    rw [(updateLobby_spec h₂).2, (updateMembers_spec (fun _ => rfl) h₁).2]
    exact hjoined.modify (fun _ => rfl) (fun _ => rfl) fun _ => rfl

theorem startRound_joined {roundId : String} {startedAt : Time} {random : Random} {host : String}
    {request : StartLobbyRequest} {round : RoundSnapshot}
    (h : startRound roundId startedAt random host request db = .ok (snapshot, round, db'))
    (hjoined : Joined lobbyId playerId db.lobbyMembership) :
    Joined lobbyId playerId db'.lobbyMembership := by
  simp only [startRound, bind_eq_ok, pure_eq_ok, Prod.mk.injEq] at h
  obtain ⟨_, -, _, -, db₁, h₁, db₂, h₂, db₃, h₃, _, -, db₄, h₄, -, -, rfl⟩ := h
  obtain ⟨rfl, -⟩ := commitLobby_spec h₄
  rw [(updateMembers_spec (fun _ => rfl) h₃).2, (updateLobby_spec h₂).2, (insertRound_spec h₁).2]
  exact hjoined.modify (fun _ => rfl) (fun _ => rfl) fun _ => rfl

/-- **A member stays one exactly when the command does not name them among those who leave.** -/
theorem commit_joined {c : LobbyCommand} (hc : Consistent db) (h : c.commit bcrypt db = .ok db')
    (hjoined : Joined lobbyId playerId db.lobbyMembership) :
    Joined lobbyId playerId db'.lobbyMembership ↔ ¬ c.Expels lobbyId playerId := by
  cases c with
  | leave assignmentId now id playerIds hostReason =>
    simp only [LobbyCommand.commit, bind_eq_ok, pure_eq_ok] at h
    obtain ⟨⟨_, _, _⟩, hdone, rfl⟩ := h
    rw [leave_joined hc hdone]
    exact ⟨fun hafter => hafter.2, fun hnot => ⟨hjoined, hnot⟩⟩
  | create draw now creator request passwordHash =>
    simp only [LobbyCommand.commit, bind_eq_ok, pure_eq_ok] at h
    obtain ⟨⟨_, _⟩, hdone, rfl⟩ := h
    exact ⟨fun _ hexpels => hexpels, fun _ => create_joined hdone hjoined⟩
  | join membershipId transactionTime joining request =>
    simp only [LobbyCommand.commit, bind_eq_ok, pure_eq_ok] at h
    obtain ⟨⟨_, _⟩, hdone, rfl⟩ := h
    exact ⟨fun _ hexpels => hexpels, fun _ => join_joined hdone hjoined⟩
  | updateConfiguration now host request =>
    simp only [LobbyCommand.commit, bind_eq_ok, pure_eq_ok] at h
    obtain ⟨⟨_, _⟩, hdone, rfl⟩ := h
    exact ⟨fun _ hexpels => hexpels, fun _ => updateConfiguration_joined hdone hjoined⟩
  | recordNominationChange nominee request =>
    simp only [LobbyCommand.commit, bind_eq_ok, pure_eq_ok] at h
    obtain ⟨⟨_, _⟩, hdone, rfl⟩ := h
    exact ⟨fun _ hexpels => hexpels, fun _ => recordNominationChange_joined hdone hjoined⟩
  | startRound roundId startedAt random host request =>
    simp only [LobbyCommand.commit, bind_eq_ok, pure_eq_ok] at h
    obtain ⟨⟨_, _, _⟩, hdone, rfl⟩ := h
    exact ⟨fun _ hexpels => hexpels, fun _ => startRound_joined hdone hjoined⟩

end Commands

end HiveChameleon.Nakama.Lobby
