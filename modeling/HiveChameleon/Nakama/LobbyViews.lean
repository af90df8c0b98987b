import HiveChameleon.Nakama.LobbyStore

/-!
# Nakama.LobbyViews — a command seen from one lobby

`view lobbyId db` collects the rows of one lobby.  Each statement on a lobby is a change of its
view and leaves the view of every other lobby alone; a command is a composition of such changes.
-/

namespace HiveChameleon.Nakama.Lobby

open Lib

/-- The rows of one lobby. -/
structure LobbyView where
  lobby : Option LobbyRow
  memberships : List LobbyMembershipRow
  assignments : List LobbyHostAssignmentRow
  configuration : Option LobbyConfigurationRow
  rounds : List GameRoundRow
deriving DecidableEq

def view (lobbyId : String) (db : Db) : LobbyView where
  lobby := db.lobby.find? lobbyId
  memberships := db.lobbyMembership.rows.filter fun m => m.lobbyId = lobbyId
  assignments := db.lobbyHostAssignment.rows.filter fun a => a.lobbyId = lobbyId
  configuration := db.lobbyConfiguration.find? lobbyId
  rounds := db.gameRound.rows.filter fun r => r.lobbyId = lobbyId

namespace LobbyView

def openMembers (v : LobbyView) : List LobbyMembershipRow := v.memberships.filter fun m => m.Open

def openAssignments (v : LobbyView) : List LobbyHostAssignmentRow :=
  v.assignments.filter fun a => a.Open

def activeRounds (v : LobbyView) : List GameRoundRow := v.rounds.filter fun r => r.Active

/-! ### The statements, on a view -/

def setLobby (set : LobbyRow → LobbyRow) (v : LobbyView) : LobbyView :=
  { v with lobby := v.lobby.map set }

def addMembership (row : LobbyMembershipRow) (v : LobbyView) : LobbyView :=
  { v with memberships := v.memberships ++ [row] }

def addAssignment (row : LobbyHostAssignmentRow) (v : LobbyView) : LobbyView :=
  { v with assignments := v.assignments ++ [row] }

def addRound (row : GameRoundRow) (v : LobbyView) : LobbyView :=
  { v with rounds := v.rounds ++ [row] }

/-- The open members that meet `p` are set. -/
def setMembers (p : LobbyMembershipRow → Prop) [DecidablePred p]
    (set : Table.Assignment LobbyMembershipRow.id) (v : LobbyView) : LobbyView :=
  { v with memberships := v.memberships.map (Table.updated (fun row => p row ∧ row.Open) set) }

/-- The open assignment ends. -/
def endAssignments (now : Time) (v : LobbyView) : LobbyView :=
  { v with assignments := v.assignments.map (Table.updated (·.Open) (endedAt now)) }

/-- The active rounds end. -/
def abortRounds (now : Time) (v : LobbyView) : LobbyView :=
  { v with rounds := v.rounds.map (Table.updated (·.Active) (abortedAt now)) }

end LobbyView

open LobbyView

/-- A write that acts on the view of one lobby as `f` and on no other view. -/
structure Changes (lobbyId : String) (f : LobbyView → LobbyView) (db db' : Db) : Prop where
  own : view lobbyId db' = f (view lobbyId db)
  others : ∀ id, id ≠ lobbyId → view id db' = view id db

section Changes

variable {lobbyId : String} {f g : LobbyView → LobbyView} {db db' db'' : Db}

theorem Changes.trans (h : Changes lobbyId f db db') (h' : Changes lobbyId g db' db'') :
    Changes lobbyId (fun v => g (f v)) db db'' where
  own := by rw [h'.own, h.own]
  others := fun id hne => by rw [h'.others id hne, h.others id hne]

/-! ### What the queries read -/

theorem mem_memberships {m : LobbyMembershipRow} :
    m ∈ (view lobbyId db).memberships ↔ m ∈ db.lobbyMembership ∧ m.lobbyId = lobbyId := by
  show m ∈ db.lobbyMembership.rows.filter _ ↔ _
  rw [List.mem_filter, decide_eq_true_eq, Table.mem_rows]

theorem openMembers_eq :
    openMembers lobbyId db = (view lobbyId db).openMembers.insertionSort JoinedBefore := by
  unfold openMembers LobbyView.openMembers
  congr 1
  show _ = (db.lobbyMembership.rows.filter _).filter _
  rw [List.filter_filter]
  refine List.filter_congr fun m _ => ?_
  rw [Bool.decide_and, Bool.and_comm]

theorem activeRoundExists_eq_false :
    activeRoundExists lobbyId db = false ↔ (view lobbyId db).activeRounds = [] := by
  show _ ↔ (db.gameRound.rows.filter _).filter _ = []
  unfold activeRoundExists
  simp only [List.any_eq_false, List.filter_eq_nil_iff, List.mem_filter, Bool.and_eq_true,
    decide_eq_true_eq, not_and, and_imp]

/-- The assignments that the trigger sees. -/
theorem openAssignments_eq :
    (db.lobbyHostAssignment.rows.filter fun a => a.lobbyId = lobbyId ∧ a.Open) =
      (view lobbyId db).openAssignments := by
  show _ = (db.lobbyHostAssignment.rows.filter _).filter _
  rw [List.filter_filter]
  refine List.filter_congr fun a _ => ?_
  rw [Bool.decide_and, Bool.and_comm]

/-! ### Inserts -/

theorem insertLobby_spec {row : LobbyRow} (h : insertLobby row db = .ok db') :
    2 ≤ row.maxPlayers ∧ db.lobby.find? row.id = none ∧
      Changes row.id (fun v => { v with lobby := some row }) db db' ∧
      db'.lobbyMembership = db.lobbyMembership := by
  simp only [insertLobby, lobbyChecks, bind_eq_ok, exists_unit, require_eq_ok, pure_eq_ok,
    Table.insert_eq_ok] at h
  obtain ⟨⟨hmax, -⟩, table, ⟨hnew, hrows⟩, rfl⟩ := h
  refine ⟨hmax.1, Table.find?_eq_none.mpr hnew, ⟨?_, fun id hne => ?_⟩, rfl⟩
  · have hfind : table.find? row.id = some row :=
      Table.find?_eq_some.mpr ⟨by rw [Table.mem_def, hrows]; simp, rfl⟩
    simp only [view, hfind]
  · have hfind : table.find? id = db.lobby.find? id := by
      have hrow : ¬ row.id = id := fun heq => hne heq.symm
      simp [Table.find?, hrows, List.find?_append, hrow]
    simp only [view, hfind]

theorem insertMembership_spec {row : LobbyMembershipRow}
    (h : insertMembership row db = .ok db') :
    (row.Open → ∀ m ∈ db.lobbyMembership, m.Open → m.playerId ≠ row.playerId) ∧
      Changes row.lobbyId (addMembership row) db db' ∧
      db'.lobbyMembership.rows = db.lobbyMembership.rows ++ [row] := by
  simp only [insertMembership, bind_eq_ok, exists_unit, require_eq_ok, pure_eq_ok,
    Table.insert_eq_ok] at h
  obtain ⟨-, -, honly, table, ⟨-, hrows⟩, rfl⟩ := h
  refine ⟨honly, ⟨?_, fun id hne => ?_⟩, hrows⟩
  · simp [view, addMembership, hrows, List.filter_append]
  · have hrow : ¬ row.lobbyId = id := fun heq => hne heq.symm
    simp [view, hrows, List.filter_append, hrow]

theorem insertHostAssignment_spec {row : LobbyHostAssignmentRow}
    (h : insertHostAssignment row db = .ok db') :
    Changes row.lobbyId (addAssignment row) db db' ∧
      db'.lobbyMembership = db.lobbyMembership := by
  simp only [insertHostAssignment, bind_eq_ok, exists_unit, require_eq_ok, pure_eq_ok,
    Table.insert_eq_ok] at h
  obtain ⟨-, -, -, table, ⟨-, hrows⟩, rfl⟩ := h
  refine ⟨⟨?_, fun id hne => ?_⟩, rfl⟩
  · simp [view, addAssignment, hrows, List.filter_append]
  · have hrow : ¬ row.lobbyId = id := fun heq => hne heq.symm
    simp [view, hrows, List.filter_append, hrow]

theorem insertConfiguration_spec {row : LobbyConfigurationRow}
    (h : insertConfiguration row db = .ok db') :
    Changes row.lobbyId (fun v => { v with configuration := some row }) db db' ∧
      db'.lobbyMembership = db.lobbyMembership := by
  simp only [insertConfiguration, bind_eq_ok, exists_unit, require_eq_ok, pure_eq_ok,
    Table.insert_eq_ok] at h
  obtain ⟨-, -, table, ⟨-, hrows⟩, rfl⟩ := h
  refine ⟨⟨?_, fun id hne => ?_⟩, rfl⟩
  · have hfind : table.find? row.lobbyId = some row :=
      Table.find?_eq_some.mpr ⟨by rw [Table.mem_def, hrows]; simp, rfl⟩
    simp only [view, hfind]
  · have hfind : table.find? id = db.lobbyConfiguration.find? id := by
      have hrow : ¬ row.lobbyId = id := fun heq => hne heq.symm
      simp [Table.find?, hrows, List.find?_append, hrow]
    simp only [view, hfind]

theorem insertRound_spec {row : GameRoundRow} (h : insertRound row db = .ok db') :
    Changes row.lobbyId (addRound row) db db' ∧ db'.lobbyMembership = db.lobbyMembership := by
  simp only [insertRound, bind_eq_ok, exists_unit, require_eq_ok, pure_eq_ok,
    Table.insert_eq_ok] at h
  obtain ⟨-, -, -, table, ⟨-, hrows⟩, rfl⟩ := h
  refine ⟨⟨?_, fun id hne => ?_⟩, rfl⟩
  · simp [view, addRound, hrows, List.filter_append]
  · have hrow : ¬ row.lobbyId = id := fun heq => hne heq.symm
    simp [view, hrows, List.filter_append, hrow]

/-! ### Updates -/

theorem updateLobby_spec {set : Table.Assignment LobbyRow.id}
    (h : updateLobby lobbyId set db = .ok db') :
    Changes lobbyId (setLobby set) db db' ∧ db'.lobbyMembership = db.lobbyMembership := by
  simp only [updateLobby, bind_eq_ok, pure_eq_ok, Table.update_eq_ok] at h
  obtain ⟨table, ⟨-, rfl⟩, rfl⟩ := h
  have hfind : ∀ id, (db.lobby.modify (fun row => row.id = lobbyId) set).find? id =
      (db.lobby.find? id).map (Table.updated (fun row => row.id = lobbyId) set) :=
    fun _ => Table.find?_modify
  refine ⟨⟨?_, fun id hne => ?_⟩, rfl⟩
  · simp only [view, setLobby, hfind]
    cases hl : db.lobby.find? lobbyId with
    | none => rfl
    | some row =>
      have hid := (Table.find?_eq_some.mp hl).2
      rw [Option.map_some, Option.map_some,
        Table.updated_of (p := fun row : LobbyRow => row.id = lobbyId) hid]
  · simp only [view, hfind]
    cases hl : db.lobby.find? id with
    | none => rfl
    | some row =>
      have hid := (Table.find?_eq_some.mp hl).2
      have hrow : ¬ row.id = lobbyId := fun heq => hne (hid.symm.trans heq)
      rw [Option.map_some, Table.updated_of_not (p := fun row : LobbyRow => row.id = lobbyId) hrow]

theorem updateMembers_spec {p : LobbyMembershipRow → Prop} [DecidablePred p]
    {set : Table.Assignment LobbyMembershipRow.id} (hset : ∀ m, (set m).lobbyId = m.lobbyId)
    (h : updateMembers lobbyId p set db = .ok db') :
    Changes lobbyId (setMembers p set) db db' ∧
      db'.lobbyMembership =
        db.lobbyMembership.modify (fun row => row.lobbyId = lobbyId ∧ p row ∧ row.Open) set := by
  simp only [updateMembers, bind_eq_ok, pure_eq_ok, Table.update_eq_ok] at h
  obtain ⟨table, ⟨-, rfl⟩, rfl⟩ := h
  refine ⟨⟨?_, fun id hne => ?_⟩, rfl⟩
  · simp only [view, setMembers]
    rw [Table.filter_modify fun m => by rw [hset]]
    congr 1
    refine List.map_congr_left fun m hm => ?_
    have hm : m.lobbyId = lobbyId := of_decide_eq_true (List.mem_filter.mp hm).2
    simp only [Table.updated, hm, true_and]
  · simp only [view]
    rw [Table.filter_modify_of_not (fun m => by rw [hset]) fun m hm hp => hne (hm.symm.trans hp.1)]

theorem updateLobbyConfiguration_spec {next : LobbyConfiguration} {now : Time}
    (h : updateLobbyConfiguration lobbyId next now db = .ok db') :
    Changes lobbyId (fun v => { v with configuration := v.configuration.map fun row =>
      { row with
        configuration := { next with rowVersion := row.configuration.rowVersion + 1 }
        updatedAt := now } }) db db' ∧
      db'.lobbyMembership = db.lobbyMembership := by
  simp only [updateLobbyConfiguration, bind_eq_ok, exists_unit, pure_eq_ok,
    Table.update_eq_ok] at h
  obtain ⟨-, table, ⟨-, rfl⟩, rfl⟩ := h
  refine ⟨⟨?_, fun id hne => ?_⟩, rfl⟩
  · simp only [view, Table.find?_modify]
    cases hl : db.lobbyConfiguration.find? lobbyId with
    | none => rfl
    | some row =>
      have hid := (Table.find?_eq_some.mp hl).2
      rw [Option.map_some, Option.map_some,
        Table.updated_of (p := fun row : LobbyConfigurationRow => row.lobbyId = lobbyId) hid]
  · simp only [view, Table.find?_modify]
    cases hl : db.lobbyConfiguration.find? id with
    | none => rfl
    | some row =>
      have hid := (Table.find?_eq_some.mp hl).2
      have hrow : ¬ row.lobbyId = lobbyId := fun heq => hne (hid.symm.trans heq)
      rw [Option.map_some,
        Table.updated_of_not (p := fun row : LobbyConfigurationRow => row.lobbyId = lobbyId) hrow]

theorem endHostAssignment_spec {now : Time} (h : endHostAssignment lobbyId now db = .ok db') :
    Changes lobbyId (endAssignments now) db db' ∧ db'.lobbyMembership = db.lobbyMembership := by
  simp only [endHostAssignment, bind_eq_ok, pure_eq_ok, Table.update_eq_ok] at h
  obtain ⟨table, ⟨-, rfl⟩, rfl⟩ := h
  refine ⟨⟨?_, fun id hne => ?_⟩, rfl⟩
  · simp only [view, endAssignments]
    rw [Table.filter_modify fun a => Iff.rfl]
    congr 1
    refine List.map_congr_left fun a ha => ?_
    have ha : a.lobbyId = lobbyId := of_decide_eq_true (List.mem_filter.mp ha).2
    simp only [Table.updated, ha, true_and]
  · simp only [view]
    rw [Table.filter_modify_of_not (fun a => Iff.rfl) fun a ha hp => hne (ha.symm.trans hp.1)]

theorem abortRounds_spec {now : Time} (h : Lobby.abortRounds lobbyId now db = .ok db') :
    Changes lobbyId (LobbyView.abortRounds now) db db' ∧
      db'.lobbyMembership = db.lobbyMembership := by
  simp only [Lobby.abortRounds, bind_eq_ok, pure_eq_ok, Table.update_eq_ok] at h
  obtain ⟨table, ⟨-, rfl⟩, rfl⟩ := h
  refine ⟨⟨?_, fun id hne => ?_⟩, rfl⟩
  · simp only [view, LobbyView.abortRounds]
    rw [Table.filter_modify fun r => Iff.rfl]
    congr 1
    refine List.map_congr_left fun r hr => ?_
    have hr : r.lobbyId = lobbyId := of_decide_eq_true (List.mem_filter.mp hr).2
    simp only [Table.updated, hr, true_and]
  · simp only [view]
    rw [Table.filter_modify_of_not (fun r => Iff.rfl) fun r hr hp => hne (hr.symm.trans hp.1)]

end Changes

/-- An aborted round is not active. -/
theorem activeRounds_abortRounds (now : Time) (v : LobbyView) :
    (LobbyView.abortRounds now v).activeRounds = [] := by
  refine List.filter_eq_nil_iff.mpr fun r hr => ?_
  obtain ⟨r, -, rfl⟩ := List.mem_map.mp hr
  rw [decide_eq_true_eq]
  by_cases hactive : r.Active
  · rw [Table.updated_of (p := GameRoundRow.Active) hactive]
    exact fun h => h.2 rfl
  · rw [Table.updated_of_not (p := GameRoundRow.Active) hactive]
    exact hactive

end HiveChameleon.Nakama.Lobby
