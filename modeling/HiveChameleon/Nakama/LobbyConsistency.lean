import HiveChameleon.Lib.Run
import HiveChameleon.Nakama.LobbyViews

/-!
# Nakama.LobbyConsistency — the lobbies stay consistent

`LobbyView.Consistent` is what the tables of one lobby always satisfy.  A committed command leaves
the view of a lobby alone or takes it to a consistent one with a greater `row_version`, and hands
the lobby of a departed host to the earliest joined member who remains.
-/

namespace HiveChameleon.Nakama.Lobby

open Lib

/-! ### The properties -/

/-- An open lobby has one open host assignment, of its current host, who is an open member. -/
def LobbyView.Hosted (v : LobbyView) : Prop :=
  ∀ lobby ∈ v.lobby, lobby.closedAt = none →
    (∃ a, v.openAssignments = [a] ∧ a.hostPlayerId = lobby.currentHostPlayerId) ∧
      ∃ m ∈ v.openMembers, m.playerId = lobby.currentHostPlayerId

/-- **What the rows of one lobby always satisfy.** -/
structure LobbyView.Consistent (v : LobbyView) : Prop where
  absent : v.lobby = none → v.memberships = [] ∧ v.rounds = []
  hosted : v.Hosted
  capacity : ∀ lobby ∈ v.lobby, (v.openMembers.length : ℤ) ≤ lobby.maxPlayers
  closed : ∀ lobby ∈ v.lobby, lobby.closedAt ≠ none ↔ v.openMembers = []
  idle : ∀ lobby ∈ v.lobby, lobby.closedAt ≠ none → v.activeRounds = []
  oneRound : v.activeRounds.length ≤ 1

/-- Each player has at most one open membership. -/
def OnePlayer (memberships : Table LobbyMembershipRow (·.id)) : Prop :=
  ∀ m ∈ memberships, ∀ m' ∈ memberships, m.Open → m'.Open → m.playerId = m'.playerId → m = m'

structure Consistent (db : Db) : Prop where
  lobbies : ∀ lobbyId, (view lobbyId db).Consistent
  onePlayer : OnePlayer db.lobbyMembership

/-- A change of a lobby increases its `row_version`. -/
def Advances (v v' : LobbyView) : Prop :=
  v' ≠ v → ∀ lobby ∈ v.lobby, ∃ lobby' ∈ v'.lobby, lobby.rowVersion < lobby'.rowVersion

/-- `m` joined first of all open members. -/
def Earliest (v : LobbyView) (m : LobbyMembershipRow) : Prop :=
  m ∈ v.openMembers ∧ ∀ m' ∈ v.openMembers, JoinedBefore m m'

/-- The host of an open lobby stays its host as long as they are a member; when they are none any
more, the earliest joined member is the host. -/
def Succession (v v' : LobbyView) : Prop :=
  ∀ lobby ∈ v.lobby, ∀ lobby' ∈ v'.lobby, lobby.closedAt = none → lobby'.closedAt = none →
    ((∃ m ∈ v'.openMembers, m.playerId = lobby.currentHostPlayerId) →
      lobby'.currentHostPlayerId = lobby.currentHostPlayerId) ∧
    ((∀ m ∈ v'.openMembers, m.playerId ≠ lobby.currentHostPlayerId) →
      ∃ m, Earliest v' m ∧ m.playerId = lobby'.currentHostPlayerId)

/-- What a command does to the lobby it writes to. -/
structure Progresses (v v' : LobbyView) : Prop where
  consistent : v'.Consistent
  advances : Advances v v'
  succession : Succession v v'

/-- What a command does to the database. -/
structure Keeps (db db' : Db) : Prop where
  lobbies : ∀ lobbyId, view lobbyId db' = view lobbyId db ∨
    Progresses (view lobbyId db) (view lobbyId db')
  onePlayer : OnePlayer db'.lobbyMembership

/-! ### Open members and active rounds of a changed view -/

section Views

open LobbyView

variable {v v' : LobbyView}

theorem length_openMembers_setMembers {p : LobbyMembershipRow → Prop} [DecidablePred p]
    {set : Table.Assignment LobbyMembershipRow.id} (hset : ∀ m, (set m).leftAt = m.leftAt) :
    (setMembers p set v).openMembers.length = v.openMembers.length := by
  have hopen : (fun m : LobbyMembershipRow => decide m.Open) ∘
      Table.updated (fun row => p row ∧ row.Open) set = fun m => decide m.Open := by
    funext m
    rw [Function.comp_apply, decide_eq_decide]
    show (Table.updated _ set m).leftAt = none ↔ m.leftAt = none
    rw [Table.updated_eq (g := LobbyMembershipRow.leftAt) hset]
  show ((v.memberships.map _).filter _).length = _
  rw [List.filter_map, hopen, List.length_map]
  rfl

theorem openMembers_leave {p : LobbyMembershipRow → Prop} [DecidablePred p] {now : Time} :
    (setMembers p (leftAt now) v).openMembers = v.openMembers.filter fun m => ¬ p m := by
  have hopen : (fun m : LobbyMembershipRow => decide m.Open) ∘
      Table.updated (fun row => p row ∧ row.Open) (leftAt now) =
        fun m => decide (¬ p m) && decide m.Open := by
    funext m
    rw [Function.comp_apply, ← Bool.decide_and, decide_eq_decide]
    by_cases hm : p m ∧ m.Open
    · rw [Table.updated_of (p := fun row : LobbyMembershipRow => p row ∧ row.Open) hm]
      exact ⟨fun h => absurd h nofun, fun h => absurd hm.1 h.1⟩
    · rw [Table.updated_of_not (p := fun row : LobbyMembershipRow => p row ∧ row.Open) hm]
      exact ⟨fun h => ⟨fun hp => hm ⟨hp, h⟩, h⟩, fun h => h.2⟩
  show (v.memberships.map _).filter _ = (v.memberships.filter _).filter _
  rw [List.filter_map, hopen, List.filter_filter]
  conv_rhs => rw [← List.map_id (v.memberships.filter _)]
  refine List.map_congr_left fun m hm => ?_
  have hnot : ¬ p m := by
    have := (List.mem_filter.mp hm).2
    simp only [Bool.and_eq_true, decide_eq_true_eq] at this
    exact this.1
  exact Table.updated_of_not (p := fun row : LobbyMembershipRow => p row ∧ row.Open)
    fun h => hnot h.1

theorem openMembers_addMembership {row : LobbyMembershipRow} (hrow : row.Open) :
    (addMembership row v).openMembers = v.openMembers ++ [row] := by
  show (v.memberships ++ [row]).filter _ = _
  rw [List.filter_append, List.filter_singleton, decide_eq_true hrow]
  rfl

theorem activeRounds_addRound {row : GameRoundRow} (hrow : row.Active) :
    (addRound row v).activeRounds = v.activeRounds ++ [row] := by
  show (v.rounds ++ [row]).filter _ = _
  rw [List.filter_append, List.filter_singleton, decide_eq_true hrow]
  rfl

instance : Std.Total JoinedBefore where
  total a b := by
    rcases lt_trichotomy a.joinedAt b.joinedAt with hlt | heq | hgt
    · exact .inl (.inl hlt)
    · rcases le_total a.id b.id with hle | hle
      · exact .inl (.inr ⟨heq, hle⟩)
      · exact .inr (.inr ⟨heq.symm, hle⟩)
    · exact .inr (.inl hgt)

instance : IsTrans LobbyMembershipRow JoinedBefore where
  trans a b c hab hbc := by
    rcases hab with hab | ⟨hab, hid⟩ <;> rcases hbc with hbc | ⟨hbc, hid'⟩
    · exact .inl (hab.trans hbc)
    · exact .inl (hab.trans_eq hbc)
    · exact .inl (hab.trans_lt hbc)
    · exact .inr ⟨hab.trans hbc, hid.trans hid'⟩

theorem earliest_of_sorted {m : LobbyMembershipRow} {rest : List LobbyMembershipRow}
    (h : v.openMembers.insertionSort JoinedBefore = m :: rest) : Earliest v m := by
  have hsorted : (m :: rest).Pairwise JoinedBefore := h ▸ List.pairwise_insertionSort _ _
  have hmem : ∀ m', m' ∈ v.openMembers ↔ m' ∈ m :: rest := by
    intro m'
    rw [← h, List.mem_insertionSort]
  refine ⟨(hmem m).mpr List.mem_cons_self, fun m' hm' => ?_⟩
  rcases List.mem_cons.mp ((hmem m').mp hm') with rfl | hrest
  · exact .inr ⟨rfl, le_refl _⟩
  · exact (List.pairwise_cons.mp hsorted).1 m' hrest

end Views

/-! ### The trigger -/

theorem commitLobby_spec {lobbyId : String} {db db' : Db} (h : commitLobby lobbyId db = .ok db') :
    db' = db ∧ (view lobbyId db).Hosted := by
  simp only [commitLobby, bind_eq_ok, exists_unit, pure_eq_ok] at h
  obtain ⟨hcheck, rfl⟩ := h
  refine ⟨rfl, fun lobby hlobby hopen => ?_⟩
  have hfind : db.lobby.find? lobbyId = some lobby := hlobby
  rw [hcCheckLobbyHostConsistency, hfind] at hcheck
  simp only [openAssignments_eq] at hcheck
  rw [if_pos hopen] at hcheck
  simp only [bind_eq_ok, exists_unit, require_eq_ok] at hcheck
  obtain ⟨⟨a, ha, hlength, hhost⟩, m, hm, hid, hplayer, hmopen⟩ := hcheck
  obtain ⟨b, hb⟩ := List.length_eq_one_iff.mp hlength
  rw [hb, List.mem_singleton] at ha
  refine ⟨⟨a, by rw [hb, ha], hhost⟩, m, List.mem_filter.mpr ⟨?_, decide_eq_true hmopen⟩, hplayer⟩
  exact mem_memberships.mpr ⟨hm, hid⟩

/-! ### Open lobbies that stay open -/

section Open

variable {v v' : LobbyView} {lobby lobby' : LobbyRow}

theorem consistent_of_open (hlobby : v.lobby = some lobby) (hopen : lobby.closedAt = none)
    (hhosted : v.Hosted) (hcapacity : (v.openMembers.length : ℤ) ≤ lobby.maxPlayers)
    (hrounds : v.activeRounds.length ≤ 1) : v.Consistent := by
  have hsame : ∀ row ∈ v.lobby, row = lobby := by
    intro row hrow
    rw [hlobby] at hrow
    exact (Option.some.inj hrow).symm
  refine ⟨fun hnone => ?_, hhosted, fun row hrow => ?_, fun row hrow => ?_, fun row hrow hclosed => ?_,
    hrounds⟩
  · rw [hlobby] at hnone
    cases hnone
  · rw [hsame row hrow]
    exact hcapacity
  · rw [hsame row hrow]
    obtain ⟨-, m, hm, -⟩ := hhosted lobby hlobby hopen
    exact ⟨fun h => absurd hopen h, fun h => absurd (h ▸ hm) List.not_mem_nil⟩
  · rw [hsame row hrow] at hclosed
    exact absurd hopen hclosed

theorem progresses_of_advance (hlobby : v.lobby = some lobby) (hopen : lobby.closedAt = none)
    (hlobby' : v'.lobby = some (advanceVersion lobby)) (hhosted : v'.Hosted)
    (hcapacity : (v'.openMembers.length : ℤ) ≤ lobby.maxPlayers)
    (hrounds : v'.activeRounds.length ≤ 1) : Progresses v v' := by
  refine ⟨consistent_of_open hlobby' hopen hhosted hcapacity hrounds, fun _ row hrow => ?_, ?_⟩
  · rw [hlobby] at hrow
    obtain rfl := Option.some.inj hrow
    refine ⟨_, hlobby', ?_⟩
    show lobby.rowVersion < lobby.rowVersion + 1
    omega
  · intro row hrow row' hrow' _ _
    rw [hlobby] at hrow
    rw [hlobby'] at hrow'
    obtain rfl := Option.some.inj hrow
    obtain rfl := Option.some.inj hrow'
    refine ⟨fun _ => rfl, fun hnone => ?_⟩
    obtain ⟨-, m, hm, hplayer⟩ := hhosted _ hlobby' hopen
    exact absurd hplayer (hnone m hm)

end Open

end HiveChameleon.Nakama.Lobby
