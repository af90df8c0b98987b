import HiveChameleon.Nakama.LobbyCache

/-!
# Nakama.Nominations — the answer of a match against the answer of the store

`nominate_hunter` answers from the cache of the match when the nomination would stay as it is, and
asks the store otherwise.  `recordNominationChange_isOk` says when the store accepts; the fast path
checks the cached version alone, so that it agrees with the store only where the cache is current
and the caller may nominate.
-/

namespace HiveChameleon.Nakama.Lobby

open Lib

/-- The caller is an open member of an open lobby in which no round is active. -/
def MayNominate (lobbyId playerId : String) (db : Db) : Prop :=
  isOpenMember lobbyId playerId db = true ∧ activeRoundExists lobbyId db = false

instance (lobbyId playerId : String) (db : Db) : Decidable (MayNominate lobbyId playerId db) :=
  inferInstanceAs (Decidable (_ ∧ _))

/-- The stored version of a lobby. -/
def AtVersion (lobbyId : String) (version : ℤ) (db : Db) : Prop :=
  (db.lobby.find? lobbyId).map (·.rowVersion) = some version

instance (lobbyId : String) (version : ℤ) (db : Db) : Decidable (AtVersion lobbyId version db) :=
  inferInstanceAs (Decidable (_ = _))

/-! ### When the store accepts -/

section Store

variable {db : Db} {lobbyId playerId : String}

theorem isOpenMember_iff : isOpenMember lobbyId playerId db = true ↔
    ∃ lobby, db.lobby.find? lobbyId = some lobby ∧ lobby.closedAt = none ∧
      ∃ m ∈ db.lobbyMembership, m.lobbyId = lobbyId ∧ m.playerId = playerId ∧ m.Open := by
  unfold isOpenMember
  simp only [List.any_eq_true, Bool.and_eq_true, decide_eq_true_eq, Table.mem_rows, and_assoc]
  refine ⟨?_, ?_⟩
  · rintro ⟨lobby, hlobby, rfl, hopen, m, hm, hid, hplayer, hmopen⟩
    exact ⟨lobby, Table.find?_key hlobby, hopen, m, hm, hid, hplayer, hmopen⟩
  · rintro ⟨lobby, hfind, hopen, m, hm, hid, hplayer, hmopen⟩
    obtain ⟨hlobby, rfl⟩ := Table.find?_eq_some.mp hfind
    exact ⟨lobby, hlobby, rfl, hopen, m, hm, hid, hplayer, hmopen⟩

theorem length_departing (hone : OnePlayer db.lobbyMembership) :
    (departing lobbyId [playerId] db).length = 1 ↔
      ∃ m ∈ db.lobbyMembership, m.lobbyId = lobbyId ∧ m.playerId = playerId ∧ m.Open := by
  unfold departing
  rw [List.length_map]
  set found := db.lobbyMembership.rows.filter fun m =>
    m.lobbyId = lobbyId ∧ m.playerId ∈ [playerId] ∧ m.Open with hfound
  have hmem : ∀ m, m ∈ found ↔
      m ∈ db.lobbyMembership ∧ m.lobbyId = lobbyId ∧ m.playerId = playerId ∧ m.Open := by
    intro m
    rw [hfound, List.mem_filter, decide_eq_true_eq, List.mem_singleton, Table.mem_rows]
  have hnodup : found.Nodup := (List.Nodup.of_map _ db.lobbyMembership.nodup_keys).filter _
  refine ⟨fun hlength => ?_, fun ⟨m, hm, hid, hplayer, hopen⟩ => ?_⟩
  · obtain ⟨m, hm⟩ := List.length_eq_one_iff.mp hlength
    have hin : m ∈ found := by rw [hm]; exact List.mem_singleton_self m
    exact ⟨m, (hmem m).mp hin⟩
  · have hin : m ∈ found := (hmem m).mpr ⟨hm, hid, hplayer, hopen⟩
    have hsub : found ⊆ [m] := by
      intro m' hm'
      obtain ⟨hm', -, hplayer', hopen'⟩ := (hmem m').mp hm'
      rw [hone m' hm' m hm hopen' hopen (hplayer'.trans hplayer.symm)]
      exact List.mem_singleton_self m
    have hle := (List.subperm_of_subset hnodup hsub).length_le
    have hpos : 0 < found.length := List.length_pos_of_mem hin
    rw [List.length_singleton] at hle
    omega

theorem updateMembers_nominated (lobbyId : String) (p : LobbyMembershipRow → Prop) [DecidablePred p]
    (value : Bool) (db : Db) : ∃ db', updateMembers lobbyId p (nominated value) db = .ok db' := by
  refine ⟨_, bind_eq_ok.mpr ⟨_, Table.update_eq_ok.mpr ⟨fun row _ hp => ?_, rfl⟩, rfl⟩⟩
  refine require_eq_ok.mpr fun leftAt hleft => ?_
  have hopen : row.leftAt = none := hp.2.2
  have hleft : leftAt ∈ row.leftAt := hleft
  rw [hopen] at hleft
  cases hleft

theorem updateLobby_advance (hs : Stored db) (lobbyId : String) :
    ∃ db', updateLobby lobbyId advanceVersion db = .ok db' :=
  ⟨_, bind_eq_ok.mpr ⟨_, Table.update_eq_ok.mpr ⟨fun row hrow _ => hs.checked row hrow, rfl⟩, rfl⟩⟩

theorem commitLobby_ok (h : (view lobbyId db).Hosted) {lobby : LobbyRow}
    (hfind : db.lobby.find? lobbyId = some lobby) (hopen : lobby.closedAt = none) :
    commitLobby lobbyId db = .ok db := by
  obtain ⟨⟨a, ha, hhost⟩, m, hm, hplayer⟩ := h lobby hfind hopen
  obtain ⟨hm, hmopen⟩ := List.mem_filter.mp hm
  obtain ⟨hm, hid⟩ := mem_memberships.mp hm
  have hcheck : hcCheckLobbyHostConsistency lobbyId db = .ok () := by
    rw [hcCheckLobbyHostConsistency, hfind]
    simp only [openAssignments_eq]
    rw [if_pos hopen]
    refine bind_eq_ok.mpr ⟨(), require_eq_ok.mpr ⟨a, ?_, ?_, hhost⟩, require_eq_ok.mpr
      ⟨m, hm, hid, hplayer, of_decide_eq_true hmopen⟩⟩
    · rw [ha]
      exact List.mem_singleton_self a
    · rw [ha]
      rfl
  exact bind_eq_ok.mpr ⟨(), hcheck, rfl⟩

theorem hosted_nominated {v : LobbyView} (h : v.Hosted) (p : LobbyMembershipRow → Prop) [DecidablePred p]
    (value : Bool) :
    (LobbyView.setLobby advanceVersion.set (LobbyView.setMembers p (nominated value) v)).Hosted := by
  intro lobby' hlobby' hopen
  obtain ⟨lobby, hlobby, rfl⟩ := Option.mem_map.mp hlobby'
  obtain ⟨hassignment, m, hm, hplayer⟩ := h lobby hlobby hopen
  refine ⟨hassignment, Table.updated (fun row => p row ∧ row.Open) (nominated value) m, ?_, ?_⟩
  · obtain ⟨hm, hmopen⟩ := List.mem_filter.mp hm
    refine List.mem_filter.mpr ⟨List.mem_map_of_mem hm, decide_eq_true ?_⟩
    show (Table.updated _ (nominated value) m).leftAt = none
    rw [Table.updated_eq (g := LobbyMembershipRow.leftAt) fun _ => rfl]
    exact of_decide_eq_true hmopen
  · rw [Table.updated_eq (g := LobbyMembershipRow.playerId) fun _ => rfl]
    exact hplayer

/-- **When the store accepts a nomination**: the caller may nominate, and the version is the stored
one. -/
theorem recordNominationChange_isOk (hc : Consistent db) (hs : Stored db)
    (request : NominateHunterRequest) :
    (∃ done, recordNominationChange playerId request db = .ok done) ↔
      MayNominate request.lobbyId playerId db ∧
        AtVersion request.lobbyId request.expectedLobbyVersion db := by
  unfold recordNominationChange MayNominate AtVersion
  rw [isOpenMember_iff]
  cases hfind : db.lobby.find? request.lobbyId with
  | none => simp
  | some lobby =>
    simp only [Option.map_some, Option.some.injEq]
    refine ⟨?_, ?_⟩
    · rintro ⟨done, h⟩
      simp only [bind_eq_ok, exists_unit, require_eq_ok] at h
      obtain ⟨hopen, hversion, hidle, _, -, hmember, -⟩ := h
      exact ⟨⟨⟨lobby, rfl, hopen, (length_departing hc.onePlayer).mp hmember⟩, hidle⟩, hversion⟩
    · rintro ⟨⟨⟨_, rfl, hopen, hmember⟩, hidle⟩, hversion⟩
      obtain ⟨db₁, hmembers⟩ := updateMembers_nominated request.lobbyId
        (fun row => row.playerId = playerId) request.nominated db
      obtain ⟨db₂, hlobby⟩ := updateLobby_advance (hs.updateMembers hmembers) request.lobbyId
      have hview : view request.lobbyId db₂ = LobbyView.setLobby advanceVersion.set
          (LobbyView.setMembers (fun row => row.playerId = playerId) (nominated request.nominated)
            (view request.lobbyId db)) := by
        rw [(updateLobby_spec hlobby).1.own, (updateMembers_spec (fun _ => rfl) hmembers).1.own]
      have hhosted : (view request.lobbyId db₂).Hosted := by
        rw [hview]
        exact hosted_nominated (hc.lobbies request.lobbyId).hosted _ _
      have hfind₂ : db₂.lobby.find? request.lobbyId = some (advanceVersion lobby) := by
        have hown : db₂.lobby.find? request.lobbyId =
            (db.lobby.find? request.lobbyId).map advanceVersion.set := congrArg LobbyView.lobby hview
        rw [hown, hfind]
        rfl
      obtain ⟨c, hcmem, hcid⟩ := hs.configured lobby (Table.find?_eq_some.mp hfind).1
      have hid : lobby.id = request.lobbyId := (Table.find?_eq_some.mp hfind).2
      have hconfiguration : db₂.lobbyConfiguration.find? request.lobbyId = some c := by
        have hown : db₂.lobbyConfiguration.find? request.lobbyId =
            db.lobbyConfiguration.find? request.lobbyId := congrArg LobbyView.configuration hview
        rw [hown]
        exact Table.find?_eq_some.mpr ⟨hcmem, hcid.trans hid⟩
      refine ⟨_, bind_eq_ok.mpr ⟨(), require_eq_ok.mpr hopen, bind_eq_ok.mpr ⟨(),
        require_eq_ok.mpr hversion, bind_eq_ok.mpr ⟨(), require_eq_ok.mpr hidle, bind_eq_ok.mpr ⟨db₁,
        hmembers, bind_eq_ok.mpr ⟨(), require_eq_ok.mpr ((length_departing hc.onePlayer).mpr hmember),
        bind_eq_ok.mpr ⟨db₂, hlobby, bind_eq_ok.mpr ⟨_, loadLobbySnapshot_eq_ok.mpr
        ⟨_, c, hfind₂, hconfiguration, rfl⟩, bind_eq_ok.mpr ⟨db₂,
        commitLobby_ok hhosted hfind₂ hopen, rfl⟩⟩⟩⟩⟩⟩⟩⟩⟩

end Store

/-! ### A nomination that stays as it is -/

section Unchanged

variable {db db' : Db} {playerId : String} {snapshot recorded : LobbySnapshot}

theorem nodup_openMembers (hone : OnePlayer db.lobbyMembership) (lobbyId : String) :
    ((openMembers lobbyId db).map (·.playerId)).Nodup := by
  have hrows : (openMembers lobbyId db).Nodup := by
    refine (List.perm_insertionSort _ _).nodup_iff.mpr ?_
    exact (List.Nodup.of_map _ db.lobbyMembership.nodup_keys).filter _
  refine List.Nodup.map_on (fun m hm m' hm' hsame => ?_) hrows
  have hm := List.mem_filter.mp ((List.mem_insertionSort _).mp hm)
  have hm' := List.mem_filter.mp ((List.mem_insertionSort _).mp hm')
  exact hone m hm.1 m' hm'.1 (of_decide_eq_true hm.2).2 (of_decide_eq_true hm'.2).2 hsame

theorem mem_liveNominees {memberIds : List String} {p : String} :
    ∀ {nominees rest : List String}, p ∈ liveNominees memberIds nominees rest ↔
      p ∈ nominees ∨ p ∈ rest ∧ p ∈ memberIds
  | nominees, [] => by simp [liveNominees]
  | nominees, playerId :: rest => by
    rw [liveNominees]
    by_cases hskip : playerId ∉ memberIds ∨ playerId ∈ nominees
    · rw [if_pos hskip, mem_liveNominees, List.mem_cons]
      refine ⟨fun h => h.imp_right fun h => ⟨.inr h.1, h.2⟩, ?_⟩
      rintro (h | ⟨rfl | h, hmember⟩)
      · exact .inl h
      · exact .inl (hskip.resolve_left (not_not.mpr hmember))
      · exact .inr ⟨h, hmember⟩
    · rw [if_neg hskip, mem_liveNominees, List.mem_append, List.mem_singleton, List.mem_cons]
      obtain ⟨hmember, -⟩ := not_or.mp hskip
      refine ⟨?_, ?_⟩
      · rintro ((h | rfl) | ⟨h, hin⟩)
        · exact .inl h
        · exact .inr ⟨.inl rfl, not_not.mp hmember⟩
        · exact .inr ⟨.inr h, hin⟩
      · rintro (h | ⟨rfl | h, hin⟩)
        · exact .inl (.inl h)
        · exact .inl (.inr rfl)
        · exact .inr ⟨h, hin⟩

theorem nodup_liveNominees {memberIds : List String} :
    ∀ {nominees rest : List String}, nominees.Nodup → (liveNominees memberIds nominees rest).Nodup
  | nominees, [], h => h
  | nominees, playerId :: rest, h => by
    rw [liveNominees]
    by_cases hskip : playerId ∉ memberIds ∨ playerId ∈ nominees
    · rw [if_pos hskip]
      exact nodup_liveNominees h
    · rw [if_neg hskip]
      refine nodup_liveNominees (List.nodup_append.mpr ⟨h, List.nodup_singleton _, ?_⟩)
      rintro p hp q hq rfl
      exact hskip (.inr (List.mem_singleton.mp hq ▸ hp))

theorem live_perm (hone : OnePlayer db.lobbyMembership) {lobbyId : String}
    (hload : loadLobbySnapshot lobbyId db = .ok snapshot) :
    snapshot.live.Perm snapshot.hunterNomineeIds := by
  obtain ⟨lobby, configuration, -, -, rfl⟩ := loadLobbySnapshot_eq_ok.mp hload
  have hnodup : (((openMembers lobbyId db).filter (·.hunterNominated)).map (·.playerId)).Nodup :=
    (nodup_openMembers hone lobbyId).sublist (List.filter_sublist.map _)
  refine (List.perm_ext_iff_of_nodup (nodup_liveNominees List.nodup_nil) hnodup).mpr fun p => ?_
  rw [mem_liveNominees]
  refine ⟨fun h => (h.resolve_left List.not_mem_nil).1, fun h => .inr ⟨h, ?_⟩⟩
  obtain ⟨m, hm, rfl⟩ := List.mem_map.mp h
  rw [List.map_map]
  exact List.mem_map_of_mem (List.mem_of_mem_filter hm)

theorem nominated_unchanged (hone : OnePlayer db.lobbyMembership) {lobbyId : String} {value : Bool}
    (hload : loadLobbySnapshot lobbyId db = .ok snapshot)
    (hvalue : decide (playerId ∈ snapshot.hunterNomineeIds) = value)
    (h : updateMembers lobbyId (fun row => row.playerId = playerId) (nominated value) db = .ok db') :
    db'.lobbyMembership = db.lobbyMembership := by
  obtain ⟨lobby, configuration, -, -, rfl⟩ := loadLobbySnapshot_eq_ok.mp hload
  rw [(updateMembers_spec (fun _ => rfl) h).2]
  refine Table.ext ((List.map_congr_left fun m hm => ?_).trans (List.map_id _))
  by_cases hp : m.lobbyId = lobbyId ∧ m.playerId = playerId ∧ m.Open
  · rw [Table.updated_of (p := fun row : LobbyMembershipRow =>
      row.lobbyId = lobbyId ∧ row.playerId = playerId ∧ row.Open) hp]
    have hmember : m ∈ openMembers lobbyId db :=
      (List.mem_insertionSort _).mpr (List.mem_filter.mpr ⟨hm, decide_eq_true ⟨hp.1, hp.2.2⟩⟩)
    have hflag : m.hunterNominated = value := by
      rw [← hvalue, Bool.eq_iff_iff, decide_eq_true_eq]
      refine ⟨fun hnominated => ?_, fun hnominee => ?_⟩
      · rw [← hp.2.1]
        exact List.mem_map_of_mem (List.mem_filter.mpr ⟨hmember, hnominated⟩)
      · obtain ⟨m', hm', hplayer⟩ := List.mem_map.mp hnominee
        obtain ⟨hm', hnominated⟩ := List.mem_filter.mp hm'
        have hm' := List.mem_filter.mp ((List.mem_insertionSort _).mp hm')
        rw [← hone m' hm'.1 m hm (of_decide_eq_true hm'.2).2 hp.2.2 (hplayer.trans hp.2.1.symm)]
        exact hnominated
    show { m with hunterNominated := value } = m
    rw [← hflag]
  · exact Table.updated_of_not (p := fun row : LobbyMembershipRow =>
      row.lobbyId = lobbyId ∧ row.playerId = playerId ∧ row.Open) hp

/-- **A nomination that stays as it is** leaves the members and the nominees of the snapshot. -/
theorem recordNominationChange_unchanged (hone : OnePlayer db.lobbyMembership)
    {request : NominateHunterRequest} (hload : loadLobbySnapshot request.lobbyId db = .ok snapshot)
    (hvalue : decide (playerId ∈ snapshot.hunterNomineeIds) = request.nominated)
    (h : recordNominationChange playerId request db = .ok (recorded, db')) :
    recorded.members = snapshot.members ∧ recorded.hunterNomineeIds = snapshot.hunterNomineeIds := by
  unfold recordNominationChange at h
  cases hfind : db.lobby.find? request.lobbyId with
  | none =>
    rw [hfind] at h
    cases h
  | some lobby =>
    rw [hfind] at h
    simp only [bind_eq_ok, exists_unit, pure_eq_ok, Prod.mk.injEq] at h
    obtain ⟨-, -, -, db₁, h₁, -, db₂, h₂, _, hload₂, db₃, h₃, rfl, rfl⟩ := h
    have hmembers : openMembers request.lobbyId db₂ = openMembers request.lobbyId db := by
      unfold openMembers
      rw [(updateLobby_spec h₂).2, nominated_unchanged hone hload hvalue h₁]
    obtain ⟨_, _, -, -, rfl⟩ := loadLobbySnapshot_eq_ok.mp hload
    obtain ⟨_, _, -, -, rfl⟩ := loadLobbySnapshot_eq_ok.mp hload₂
    rw [hmembers]
    exact ⟨rfl, rfl⟩

end Unchanged

/-! ### The fast path -/

/-- The nomination reaches the fast path: it is for the lobby of the match, no round has started,
and the cached nomination is the one that is asked for. -/
def LobbyMatch.FastPath (m : LobbyMatch) (playerId : String) (request : NominateHunterRequest) : Prop :=
  request.lobbyId = m.lobbyId ∧ m.round.isSome = false ∧
    decide (playerId ∈ m.nominations) = request.nominated

/-- The match answers as the store would: it succeeds exactly when the store does, and then with the
same members and nominees. -/
def LobbyMatch.AnswersAsStore (m : LobbyMatch) (draws : Draws) (db : Db) (playerId : String)
    (request : NominateHunterRequest) : Prop :=
  let answer := (m.matchSignal draws db (.nominateHunter playerId (some request))).answer
  ((∃ response, answer = .ok response) ↔
      ∃ done, recordNominationChange playerId request db = .ok done) ∧
    ∀ response recorded db', answer = .ok response →
      recordNominationChange playerId request db = .ok (recorded, db') →
        response.lobby.members = recorded.members ∧
          response.lobby.hunterNomineeIds.Perm recorded.hunterNomineeIds

/-- Where the fast path is right: the cached version is expected only while it is the stored one and
the caller may nominate, and a caller who may nominate expects no other version that is stored. -/
def LobbyMatch.FastPathSafe (m : LobbyMatch) (db : Db) (playerId : String)
    (request : NominateHunterRequest) : Prop :=
  (request.expectedLobbyVersion = m.snapshot.rowVersion →
      AtVersion m.lobbyId m.snapshot.rowVersion db ∧ MayNominate m.lobbyId playerId db) ∧
    (request.expectedLobbyVersion ≠ m.snapshot.rowVersion →
      AtVersion m.lobbyId request.expectedLobbyVersion db → ¬ MayNominate m.lobbyId playerId db)

section FastPath

variable {bcrypt : PasswordCheck} {S : LobbySystem} {m : LobbyMatch} {draws : Draws}
  {playerId : String} {request : NominateHunterRequest}

theorem fastPath_answer (h : m.FastPath playerId request) (db : Db) :
    (m.matchSignal draws db (.nominateHunter playerId (some request))).answer =
      if request.expectedLobbyVersion ≠ m.snapshot.rowVersion then
        .error ⟨grpcAborted, "lobby version changed; refresh state and retry"⟩
      else .ok ⟨m.snapshot, false, none⟩ := by
  obtain ⟨hid, hround, hfast⟩ := h
  have hround : ¬ m.round.isSome = true := by
    rw [hround]
    exact Bool.false_ne_true
  unfold LobbyMatch.matchSignal LobbyMatch.signalNominateHunter
  dsimp only
  rw [if_neg (not_not.mpr hid), if_neg hround, if_pos hfast]
  by_cases hversion : request.expectedLobbyVersion ≠ m.snapshot.rowVersion
  · rw [if_pos hversion, if_pos hversion]
    rfl
  · rw [if_neg hversion, if_neg hversion]

/-- **The fast path answers as the store would exactly where it is safe**, in every reachable state. -/
theorem fast_path_answers_as_store_iff {versions : List (String × MapVersionStatus)}
    {ts : List (Transition LobbySystem MatchLabel)} (hrun : Run (MatchStep bcrypt) (noMatch versions) ts S)
    (hm : S.lobbyMatch = some m) (hfast : m.FastPath playerId request) :
    m.AnswersAsStore draws S.db playerId request ↔ m.FastPathSafe S.db playerId request := by
  have hinv := reachable_invariant hrun
  have hid := hfast.1
  have hstore : (∃ done, recordNominationChange playerId request S.db = .ok done) ↔
      MayNominate request.lobbyId playerId S.db ∧
        AtVersion request.lobbyId request.expectedLobbyVersion S.db :=
    recordNominationChange_isOk hinv.consistent hinv.stored request
  rw [hid] at hstore
  unfold LobbyMatch.AnswersAsStore LobbyMatch.FastPathSafe
  dsimp only
  rw [fastPath_answer hfast, hstore]
  by_cases hversion : request.expectedLobbyVersion = m.snapshot.rowVersion
  · rw [if_neg (not_not.mpr hversion), hversion]
    refine ⟨fun h => ?_, fun h => ?_⟩
    · obtain ⟨hmay, hat⟩ := h.1.mp ⟨_, rfl⟩
      exact ⟨fun _ => ⟨hat, hmay⟩, fun hne => absurd rfl hne⟩
    · obtain ⟨hat, hmay⟩ := h.1 rfl
      refine ⟨⟨fun _ => ⟨hmay, hat⟩, fun _ => ⟨_, rfl⟩⟩, fun response recorded db' hanswer hrecord => ?_⟩
      obtain rfl := Except.ok.inj hanswer
      -- the cached version is the stored one, so that the cache is what is stored
      obtain ⟨lobby, hlobby, -, hcurrent⟩ := hinv.cached m hm
      unfold AtVersion at hat
      rw [hlobby] at hat
      obtain ⟨snapshot, hload, hsame, hlive⟩ := hcurrent (Option.some.inj hat)
      have hperm := live_perm hinv.consistent.onePlayer hload
      have hvalue : decide (playerId ∈ snapshot.hunterNomineeIds) = request.nominated := by
        rw [← hfast.2.2, hlive, decide_eq_decide]
        exact hperm.mem_iff.symm
      obtain ⟨hmembers, hnominees⟩ :=
        recordNominationChange_unchanged hinv.consistent.onePlayer (hid ▸ hload) hvalue hrecord
      rw [hmembers, hnominees]
      dsimp only
      rw [hsame]
      exact ⟨rfl, (List.perm_insertionSort _ _).trans hperm⟩
  · rw [if_pos hversion]
    refine ⟨fun h => ⟨fun heq => absurd heq hversion, fun _ hat hmay => ?_⟩, fun h => ⟨⟨?_, ?_⟩, ?_⟩⟩
    · obtain ⟨response, hresponse⟩ := h.1.mpr ⟨hmay, hat⟩
      cases hresponse
    · rintro ⟨response, hresponse⟩
      cases hresponse
    · rintro ⟨hmay, hat⟩
      exact absurd hmay (h.2 hversion hat)
    · intro response recorded db' hanswer
      cases hanswer

end FastPath

/-- A lobby is created and its match starts. -/
def createdLabels : List MatchLabel :=
  [.other (.command (.create ⟨"l", "m1", "a1"⟩ 1 "p1" ⟨"name", .publicLobby, "", 3, "eu"⟩ "")),
    .init "l" none]

def someDraws : Draws where
  assignmentId := "a2"
  now := 2
  roundId := ⟨"01890000-0000-7000-8000-000000000000", by decide⟩
  random := []

/-- The run of `createdLabels`, and what its match and its tables hold. -/
theorem created_run : ∃ ts S m, Run (MatchStep fun _ _ => true) (noMatch []) ts S ∧
    ts.map Transition.label = createdLabels ∧ S.lobbyMatch = some m ∧ m.lobbyId = "l" ∧
    m.round.isSome = false ∧ m.nominations = [] ∧ m.snapshot.rowVersion = 1 ∧
    AtVersion "l" 1 S.db ∧ MayNominate "l" "p1" S.db ∧ ¬ MayNominate "l" "p2" S.db := by
  obtain ⟨ts, S, m, hreplay, hm, hid, hround, hnominations, hversion, hat, hhost, hother⟩ :
      ∃ ts S m, replay (LobbySystem.perform fun _ _ => true) (noMatch []) createdLabels = some (ts, S) ∧
        S.lobbyMatch = some m ∧ m.lobbyId = "l" ∧ m.round.isSome = false ∧ m.nominations = [] ∧
        m.snapshot.rowVersion = 1 ∧ AtVersion "l" 1 S.db ∧ MayNominate "l" "p1" S.db ∧
        ¬ MayNominate "l" "p2" S.db :=
    ⟨_, _, _, rfl, rfl, rfl, rfl, rfl, rfl, by decide +kernel, by decide +kernel, by decide +kernel⟩
  obtain ⟨hrun, hlabels⟩ := replay_run (fun _ _ _ h => h) hreplay
  exact ⟨ts, S, m, hrun, hlabels, hm, hid, hround, hnominations, hversion, hat, hhost, hother⟩

/-- The host of the new lobby withdraws a nomination that was never made: match and store agree. -/
theorem fast_path_answers_as_store_host :
    ∃ ts S m, Run (MatchStep fun _ _ => true) (noMatch []) ts S ∧ S.lobbyMatch = some m ∧
      m.AnswersAsStore someDraws S.db "p1" ⟨"l", 1, false⟩ := by
  obtain ⟨ts, S, m, hrun, -, hm, hid, hround, hnominations, hversion, hat, hhost, -⟩ := created_run
  have hfast : m.FastPath "p1" ⟨"l", 1, false⟩ := by
    refine ⟨hid.symm, hround, ?_⟩
    rw [hnominations]
    rfl
  refine ⟨ts, S, m, hrun, hm, (fast_path_answers_as_store_iff hrun hm hfast).mpr ⟨fun _ => ?_, ?_⟩⟩
  · rw [hversion, hid]
    exact ⟨hat, hhost⟩
  · intro hne
    exact absurd hversion.symm hne

/-- A stranger to the lobby does the same: the match succeeds where the store denies permission. -/
theorem fast_path_admits_stranger :
    ∃ ts S m, Run (MatchStep fun _ _ => true) (noMatch []) ts S ∧ S.lobbyMatch = some m ∧
      m.FastPath "p2" ⟨"l", 1, false⟩ ∧
      (m.matchSignal someDraws S.db (.nominateHunter "p2" (some ⟨"l", 1, false⟩))).answer =
        .ok ⟨m.snapshot, false, none⟩ ∧
      ¬ m.AnswersAsStore someDraws S.db "p2" ⟨"l", 1, false⟩ := by
  obtain ⟨ts, S, m, hrun, -, hm, hid, hround, hnominations, hversion, -, -, hother⟩ := created_run
  have hfast : m.FastPath "p2" ⟨"l", 1, false⟩ := by
    refine ⟨hid.symm, hround, ?_⟩
    rw [hnominations]
    rfl
  have hanswer : (m.matchSignal someDraws S.db (.nominateHunter "p2" (some ⟨"l", 1, false⟩))).answer =
      .ok ⟨m.snapshot, false, none⟩ := by
    rw [fastPath_answer hfast, if_neg (not_not.mpr hversion.symm)]
  have hinv := reachable_invariant hrun
  refine ⟨ts, S, m, hrun, hm, hfast, hanswer, fun h => hother ?_⟩
  exact ((recordNominationChange_isOk hinv.consistent hinv.stored ⟨"l", 1, false⟩).mp
    (h.1.mp ⟨_, hanswer⟩)).1

end HiveChameleon.Nakama.Lobby
