import HiveChameleon.Nakama.Commit

/-!
# Nakama.StoredResult — what `commitTerminalResult` stores

The tables after a call that committed, and the invariant that only completed rounds have details.
-/

namespace HiveChameleon.Nakama

open Lib

/-! ### The rows of a committed result -/

/-- The tables hold the result beside what they held before. -/
structure Stored (input : TerminalResultCommit) (canonicalSha256 : String) (db db' : GameDb) :
    Prop where
  participants : db'.roundParticipant.rows =
    db.roundParticipant.rows ++ input.participants.map (participantRow input.roundId)
  discoveries : db'.roundDiscovery.rows =
    db.roundDiscovery.rows ++ input.discoveries.map (discoveryRow input.roundId)
  likes : db'.roundLike.rows = db.roundLike.rows ++ input.likes.map (likeRow input.roundId)
  scores : ∀ p ∈ input.participants, numericDigits p.finalScore ≤ 14
  revision : db'.roundResultRevision.find? input.revisionId =
    some (initialRevisionRow input canonicalSha256)
  request : db'.matchPublicationRequest.find? input.publicationRequestId =
    some (initialRequestRow input)
  gameRound : db'.gameRound = db.gameRound.modify
    (fun r => r.id = input.roundId ∧ r.status = .answerCheck)
    ⟨.complete input.winningSide canonicalSha256 input.endedAt, fun _ => rfl⟩
  round : ∃ round, db.gameRound.find? input.roundId = some round ∧ round.status = .answerCheck

section

variable {G : GoRuntime} {tx tx' : GameTx} {input : TerminalResultCommit} {canonicalSha256 : String}
  {db db' : GameDb}

/-- An insert appends its row to one table, which satisfies `P`, and keeps `K`. -/
def Appends {α β : Type} (insert : α → GameTx → Except SqlError GameTx) (R : GameDb → List α)
    (P : α → Prop) (K : GameDb → β) : Prop :=
  ∀ row tx tx', insert row tx = .ok tx' →
    R tx'.db = R tx.db ++ [row] ∧ P row ∧ K tx'.db = K tx.db

/-- A loop of inserts appends its rows and keeps what each insert keeps. -/
theorem Appends.insertAll {α β : Type} {insert : α → GameTx → Except SqlError GameTx}
    {R : GameDb → List α} {P : α → Prop} {K : GameDb → β} (hinsert : Appends insert R P K) :
    ∀ {rows : List α} {tx tx' : GameTx}, insertAll insert rows tx = .ok tx' →
      R tx'.db = R tx.db ++ rows ∧ (∀ row ∈ rows, P row) ∧ K tx'.db = K tx.db
  | [], tx, tx', h => by
    obtain rfl := Except.ok.inj h
    exact ⟨(List.append_nil _).symm, fun row hrow => (by cases hrow), rfl⟩
  | row :: rows, tx, tx', h => by
    simp only [Nakama.insertAll, bind_eq_ok] at h
    obtain ⟨mid, hmid, h⟩ := h
    obtain ⟨hrows, hrow, hkeeps⟩ := hinsert row tx mid hmid
    obtain ⟨hrows', hall, hkeeps'⟩ := hinsert.insertAll h
    refine ⟨?_, List.forall_mem_cons.mpr ⟨hrow, hall⟩, hkeeps'.trans hkeeps⟩
    rw [hrows', hrows, List.append_assoc, List.singleton_append]

theorem appends_participant : Appends (insertRoundParticipant G) (fun db => db.roundParticipant.rows)
    (fun row => numericDigits row.finalScore ≤ 14)
    (fun db => (db.gameRound, db.roundDiscovery, db.roundLike)) := by
  intro row tx tx' h
  simp only [insertRoundParticipant, bind_eq_ok, exists_unit, require_eq_ok, pure_eq_ok,
    Table.insert_eq_ok] at h
  obtain ⟨-, -, hscore, -, -, -, -, -, table, ⟨-, hrows⟩, -, -, rfl⟩ := h
  exact ⟨hrows, hscore, rfl⟩

theorem appends_discovery : Appends insertRoundDiscovery (fun db => db.roundDiscovery.rows)
    (fun _ => True) (fun db => (db.gameRound, db.roundParticipant, db.roundLike)) := by
  intro row tx tx' h
  simp only [insertRoundDiscovery, bind_eq_ok, exists_unit, require_eq_ok, pure_eq_ok,
    Table.insert_eq_ok] at h
  obtain ⟨-, -, -, -, -, table, ⟨-, hrows⟩, -, -, -, rfl⟩ := h
  exact ⟨hrows, trivial, rfl⟩

theorem appends_like : Appends insertRoundLike (fun db => db.roundLike.rows) (fun _ => True)
    (fun db => (db.gameRound, db.roundParticipant, db.roundDiscovery)) := by
  intro row tx tx' h
  simp only [insertRoundLike, bind_eq_ok, exists_unit, require_eq_ok, pure_eq_ok,
    Table.insert_eq_ok] at h
  obtain ⟨-, -, -, table, ⟨-, hrows⟩, -, -, -, rfl⟩ := h
  exact ⟨hrows, trivial, rfl⟩

theorem insertResultRevision_spec {row : RoundResultRevisionRow}
    (h : insertResultRevision row tx = .ok tx') :
    ∃ table, table.rows = tx.db.roundResultRevision.rows ++ [row] ∧
      tx' = { tx with db := { tx.db with roundResultRevision := table } } := by
  simp only [insertResultRevision, bind_eq_ok, exists_unit, pure_eq_ok, Table.insert_eq_ok] at h
  obtain ⟨-, -, -, -, -, table, ⟨-, hrows⟩, rfl⟩ := h
  exact ⟨table, hrows, rfl⟩

theorem insertPublicationRequest_spec {row : PublicationRequestRow}
    (h : insertPublicationRequest row tx = .ok tx') :
    ∃ table, table.rows = tx.db.matchPublicationRequest.rows ++ [row] ∧
      tx'.db = { tx.db with matchPublicationRequest := table } := by
  simp only [insertPublicationRequest, bind_eq_ok, exists_unit, pure_eq_ok, Table.insert_eq_ok] at h
  obtain ⟨-, -, -, table, ⟨-, hrows⟩, rfl⟩ := h
  exact ⟨table, hrows, rfl⟩

theorem stored_of_completeRound (h : completeRound G input canonicalSha256 db = .ok db')
    (hround : ∃ round, db.gameRound.find? input.roundId = some round ∧ round.status = .answerCheck) :
    Stored input canonicalSha256 db db' := by
  simp only [completeRound, bind_eq_ok, wrap_eq_ok, exists_unit] at h
  obtain ⟨tx₁, hparticipants, tx₂, hdiscoveries, tx₃, hlikes, tx₄, hrevision, tx₅, hrequest, tx₆,
    hupdate, -, hcommit⟩ := h
  obtain ⟨hrows₁, hscores, hrest₁⟩ := appends_participant.insertAll hparticipants
  obtain ⟨hrows₂, -, hrest₂⟩ := appends_discovery.insertAll hdiscoveries
  obtain ⟨hrows₃, -, hrest₃⟩ := appends_like.insertAll hlikes
  obtain ⟨revisions, hrevisions, rfl⟩ := insertResultRevision_spec hrevision
  obtain ⟨requests, hrequests, hdb₅⟩ := insertPublicationRequest_spec hrequest
  simp only [updateGameRounds, bind_eq_ok, pure_eq_ok] at hupdate
  obtain ⟨rounds, hrounds, rfl⟩ := hupdate
  obtain ⟨-, rfl⟩ := Table.update_eq_ok.mp hrounds
  simp only [GameTx.commit, bind_eq_ok, exists_unit, pure_eq_ok] at hcommit
  obtain ⟨-, rfl⟩ := hcommit
  simp only [Prod.mk.injEq] at hrest₁ hrest₂ hrest₃
  obtain ⟨hgame₁, hdiscovery₁, hlike₁⟩ := hrest₁
  obtain ⟨hgame₂, hparticipant₂, hlike₂⟩ := hrest₂
  obtain ⟨hgame₃, hparticipant₃, hdiscovery₃⟩ := hrest₃
  refine
    { participants := ?_, discoveries := ?_, likes := ?_, scores := ?_, revision := ?_,
      request := ?_, gameRound := ?_, round := hround }
  · show tx₅.db.roundParticipant.rows = _
    rw [hdb₅]
    show tx₃.db.roundParticipant.rows = _
    rw [hparticipant₃, hparticipant₂, hrows₁]
  · show tx₅.db.roundDiscovery.rows = _
    rw [hdb₅]
    show tx₃.db.roundDiscovery.rows = _
    rw [hdiscovery₃, hrows₂, hdiscovery₁]
  · show tx₅.db.roundLike.rows = _
    rw [hdb₅]
    show tx₃.db.roundLike.rows = _
    rw [hrows₃, hlike₂, hlike₁]
  · intro p hp
    exact hscores (participantRow input.roundId p) (List.mem_map.mpr ⟨p, hp, rfl⟩)
  · show tx₅.db.roundResultRevision.find? _ = _
    rw [hdb₅]
    show revisions.find? _ = _
    refine Table.find?_eq_some.mpr ⟨?_, rfl⟩
    rw [Table.mem_def, hrevisions]
    exact List.mem_append_right _ (List.mem_singleton_self _)
  · show tx₅.db.matchPublicationRequest.find? _ = _
    rw [hdb₅]
    refine Table.find?_eq_some.mpr ⟨?_, rfl⟩
    rw [Table.mem_def, hrequests]
    exact List.mem_append_right _ (List.mem_singleton_self _)
  · show tx₅.db.gameRound.modify _ _ = _
    rw [hdb₅]
    show tx₃.db.gameRound.modify _ _ = _
    rw [hgame₃, hgame₂, hgame₁]

theorem completeRound_of_committed {round : GameRoundRow}
    (h : terminalResultOfRound G input canonicalSha256 db round = .ok (.committed, db')) :
    round.status = .answerCheck ∧ completeRound G input canonicalSha256 db = .ok db' := by
  rw [terminalResultOfRound] at h
  by_cases hcompleted : round.status = .completed
  · rw [if_pos hcompleted, bind_eq_ok] at h
    obtain ⟨-, -, h⟩ := h
    cases h
  rw [if_neg hcompleted] at h
  by_cases hcheck : round.status = .answerCheck
  · rw [if_pos hcheck, bind_eq_ok] at h
    obtain ⟨db'', hcomplete, h⟩ := h
    rw [pure_eq_ok] at h
    obtain ⟨-, rfl⟩ := Prod.mk.inj h
    exact ⟨hcheck, hcomplete⟩
  · rw [if_neg hcheck] at h
    cases h

theorem terminalResultTransaction_eq_ok {result : TerminalResultCommitOutcome × GameDb}
    (h : terminalResultTransaction G input db = .ok result) :
    ∃ round sha, validateTerminalResult G input = .ok sha ∧
      db.gameRound.find? input.roundId = some round ∧
      terminalResultOfRound G input sha db round = .ok result := by
  unfold terminalResultTransaction at h
  cases hvalid : validateTerminalResult G input with
  | error message =>
    rw [hvalid] at h
    cases h
  | ok sha =>
    rw [hvalid] at h
    cases hround : db.gameRound.find? input.roundId with
    | none =>
      simp only [hround] at h
      cases h
    | some round =>
      simp only [hround] at h
      exact ⟨round, sha, rfl, rfl, h⟩

theorem transaction_of_committed (h : commitTerminalResult G input db = (.ok .committed, db')) :
    terminalResultTransaction G input db = .ok (.committed, db') := by
  unfold commitTerminalResult at h
  cases htx : terminalResultTransaction G input db with
  | error e =>
    simp only [htx, Prod.mk.injEq, reduceCtorEq, false_and] at h
  | ok result =>
    obtain ⟨outcome, db''⟩ := result
    simp only [htx, Prod.mk.injEq, Except.ok.injEq] at h
    rw [h.1, h.2]

/-- **What a call that committed stored.** -/
theorem stored_of_committed (h : commitTerminalResult G input db = (.ok .committed, db')) :
    ValidTerminalResult G input ∧
      Stored input (G.sha256Hex input.canonicalCompleteResult) db db' := by
  obtain ⟨round, sha, hvalid, hround, hofRound⟩ :=
    terminalResultTransaction_eq_ok (transaction_of_committed h)
  obtain ⟨hinput, rfl⟩ := validateTerminalResult_eq_ok.mp hvalid
  obtain ⟨hcheck, hcomplete⟩ := completeRound_of_committed hofRound
  exact ⟨hinput, stored_of_completeRound hcomplete ⟨round, hround, hcheck⟩⟩

end

/-! ### Only completed rounds have details -/

/-- The round of a detail row is there and completed. -/
def Recorded (db : GameDb) (roundId : String) : Prop :=
  ∃ round ∈ db.gameRound, round.id = roundId ∧ round.status = .completed

structure Clean (db : GameDb) : Prop where
  participant : ∀ p ∈ db.roundParticipant.rows, Recorded db p.roundId
  discovery : ∀ d ∈ db.roundDiscovery.rows, Recorded db d.roundId
  like : ∀ l ∈ db.roundLike.rows, Recorded db l.roundId

section

variable {G : GoRuntime} {input : TerminalResultCommit} {db db' : GameDb} {call : GameCall}

/-- A step that leaves the details alone and keeps completed rounds. -/
theorem Clean.mono (h : Clean db) (hrecorded : ∀ roundId, Recorded db roundId → Recorded db' roundId)
    (hparticipant : db'.roundParticipant = db.roundParticipant)
    (hdiscovery : db'.roundDiscovery = db.roundDiscovery) (hlike : db'.roundLike = db.roundLike) :
    Clean db' where
  participant p hp := hrecorded _ (h.participant p (hparticipant ▸ hp))
  discovery d hd := hrecorded _ (h.discovery d (hdiscovery ▸ hd))
  like l hl := hrecorded _ (h.like l (hlike ▸ hl))

theorem Clean.of_empty (hparticipant : db.roundParticipant.rows = [])
    (hdiscovery : db.roundDiscovery.rows = []) (hlike : db.roundLike.rows = []) : Clean db where
  participant p hp := by
    rw [hparticipant] at hp
    cases hp
  discovery d hd := by
    rw [hdiscovery] at hd
    cases hd
  like l hl := by
    rw [hlike] at hl
    cases hl

theorem Clean.startRound {roundId lobbyId : String} {hunterCount : ℕ} {startedAt : Time}
    (h : Clean db) (hstart : startRound roundId lobbyId hunterCount startedAt db = .ok db') :
    Clean db' := by
  obtain ⟨header, table, -, hrows, rfl⟩ := startRound_eq_ok hstart
  refine h.mono (fun roundId hrecorded => ?_) rfl rfl rfl
  obtain ⟨round, hround, hid, hstatus⟩ := hrecorded
  refine ⟨round, ?_, hid, hstatus⟩
  show round ∈ table
  rw [Table.mem_def, hrows]
  exact List.mem_append_left _ hround

theorem Clean.setActiveStatus {roundId : String} {status : RoundStatus} (h : Clean db)
    (hset : setActiveStatus roundId status db = .ok db') : Clean db' := by
  obtain rfl := setActiveStatus_eq_ok hset
  refine h.mono (fun roundId hrecorded => ?_) rfl rfl rfl
  obtain ⟨round, hround, hid, hstatus⟩ := hrecorded
  exact ⟨round, Table.mem_modify_of_not hround fun hp => hp.2.1 hstatus, hid, hstatus⟩

/-- The stored result completes its round. -/
theorem Stored.recorded {canonicalSha256 : String} (h : Stored input canonicalSha256 db db') :
    Recorded db' input.roundId ∧ ∀ roundId, Recorded db roundId → Recorded db' roundId := by
  constructor
  · obtain ⟨round, hround, hstatus⟩ := h.round
    obtain ⟨hmem, hid⟩ := Table.find?_eq_some.mp hround
    refine ⟨round.complete input.winningSide canonicalSha256 input.endedAt, ?_, hid, rfl⟩
    rw [h.gameRound]
    exact Table.mem_modify_of hmem ⟨hid, hstatus⟩
  · rintro roundId ⟨round, hround, hid, hstatus⟩
    refine ⟨round, ?_, hid, hstatus⟩
    rw [h.gameRound]
    refine Table.mem_modify_of_not hround fun hp => ?_
    rw [hstatus] at hp
    cases hp.2

theorem Stored.clean {canonicalSha256 : String} (h : Stored input canonicalSha256 db db')
    (hclean : Clean db) : Clean db' := by
  obtain ⟨hnew, hold⟩ := h.recorded
  refine ⟨fun p hp => ?_, fun d hd => ?_, fun l hl => ?_⟩
  · rw [h.participants, List.mem_append] at hp
    rcases hp with hp | hp
    · exact hold _ (hclean.participant p hp)
    · obtain ⟨p', -, rfl⟩ := List.mem_map.mp hp
      exact hnew
  · rw [h.discoveries, List.mem_append] at hd
    rcases hd with hd | hd
    · exact hold _ (hclean.discovery d hd)
    · obtain ⟨d', -, rfl⟩ := List.mem_map.mp hd
      exact hnew
  · rw [h.likes, List.mem_append] at hl
    rcases hl with hl | hl
    · exact hold _ (hclean.like l hl)
    · obtain ⟨l', -, rfl⟩ := List.mem_map.mp hl
      exact hnew

/-- A call that did not commit left the tables as they were. -/
theorem commitTerminalResult_cases (G : GoRuntime) (input : TerminalResultCommit) (db : GameDb) :
    (∃ db', commitTerminalResult G input db = (.ok .committed, db')) ∨
      (commitTerminalResult G input db).2 = db := by
  unfold commitTerminalResult
  cases htx : terminalResultTransaction G input db with
  | error e => exact .inr rfl
  | ok result =>
    obtain ⟨outcome, db'⟩ := result
    cases outcome with
    | committed => exact .inl ⟨db', rfl⟩
    | replayed =>
      obtain ⟨round, sha, -, -, hround⟩ := terminalResultTransaction_eq_ok htx
      unfold terminalResultOfRound at hround
      by_cases hcompleted : round.status = .completed
      · rw [if_pos hcompleted, bind_eq_ok] at hround
        obtain ⟨-, -, hpure⟩ := hround
        exact .inr (Prod.mk.inj (pure_eq_ok.mp hpure)).2.symm
      rw [if_neg hcompleted] at hround
      by_cases hcheck : round.status = .answerCheck
      · rw [if_pos hcheck, bind_eq_ok] at hround
        obtain ⟨db'', -, hpure⟩ := hround
        cases (Prod.mk.inj (pure_eq_ok.mp hpure)).1
      · rw [if_neg hcheck] at hround
        cases hround

theorem clean_step (h : Clean db) (hl : GameStep G db call db') : Clean db' := by
  rw [← show call.apply G db = db' from hl]
  cases call with
  | startRound roundId lobbyId hunterCount startedAt =>
    exact settled_of_ok h fun db' => h.startRound
  | updateRoundPhase roundId status => exact settled_updateRoundPhase h fun db' _ => h.setActiveStatus
  | enterAnswerCheck roundId => exact settled_of_ok h fun db' => h.setActiveStatus
  | membership player lobbyMembership => exact h.mono (fun _ hrecorded => hrecorded) rfl rfl rfl
  | commitTerminalResult input =>
    show Clean (Nakama.commitTerminalResult G input db).2
    rcases commitTerminalResult_cases G input db with ⟨db'', hcommitted⟩ | hsame
    · rw [hcommitted]
      exact (stored_of_committed hcommitted).2.clean h
    · rw [hsame]
      exact h

/-- The initial revision has the versions of its round. -/
theorem versions_of_committed (h : commitTerminalResult G input db = (.ok .committed, db')) :
    ∃ round ∈ db.gameRound, round.resultSchemaVersion = input.resultSchemaVersion ∧
      round.scoringRuleVersion = input.scoringRuleVersion := by
  obtain ⟨round, sha, -, -, hofRound⟩ := terminalResultTransaction_eq_ok (transaction_of_committed h)
  have hcomplete := (completeRound_of_committed hofRound).2
  simp only [completeRound, bind_eq_ok, wrap_eq_ok] at hcomplete
  obtain ⟨tx₁, hparticipants, tx₂, hdiscoveries, tx₃, hlikes, tx₄, hrevision, -⟩ := hcomplete
  obtain ⟨round, hround, -, hversions⟩ := insertResultRevision_initial rfl hrevision
  rw [keepsRounds_like.insertAll hlikes, keepsRounds_discovery.insertAll hdiscoveries,
    keepsRounds_participant.insertAll hparticipants] at hround
  exact ⟨round, (Table.find?_eq_some.mp hround).1, hversions⟩

/-- The rounds have the versions that `StartRound` writes. -/
def StartVersions (db : GameDb) : Prop :=
  ∀ round ∈ db.gameRound, round.resultSchemaVersion = resultSchemaVersion ∧
    round.scoringRuleVersion = scoringRuleVersion

theorem StartVersions.setActiveStatus {roundId : String} {status : RoundStatus}
    (h : StartVersions db) (hset : setActiveStatus roundId status db = .ok db') :
    StartVersions db' := by
  obtain rfl := setActiveStatus_eq_ok hset
  intro round hround
  rcases Table.mem_modify_cases hround with ⟨old, hold, -, rfl⟩ | ⟨hround, -⟩
  · exact h old hold
  · exact h round hround

theorem StartVersions.startRound {roundId lobbyId : String} {hunterCount : ℕ} {startedAt : Time}
    (h : StartVersions db) (hstart : startRound roundId lobbyId hunterCount startedAt db = .ok db') :
    StartVersions db' := by
  obtain ⟨header, table, ⟨n, hheader⟩, hrows, rfl⟩ := startRound_eq_ok hstart
  intro round hround
  change round ∈ table at hround
  rw [Table.mem_def, hrows, List.mem_append, List.mem_singleton] at hround
  rcases hround with hround | rfl
  · exact h round hround
  · rw [hheader]
    exact ⟨rfl, rfl⟩

/-- No call gives a round other versions. -/
theorem startVersions_step (h : StartVersions db) (hl : GameStep G db call db') :
    StartVersions db' := by
  rw [← show call.apply G db = db' from hl]
  cases call with
  | startRound roundId lobbyId hunterCount startedAt =>
    exact settled_of_ok h fun db' => h.startRound
  | updateRoundPhase roundId status => exact settled_updateRoundPhase h fun db' _ => h.setActiveStatus
  | enterAnswerCheck roundId => exact settled_of_ok h fun db' => h.setActiveStatus
  | membership player lobbyMembership => exact h
  | commitTerminalResult input =>
    change StartVersions (Nakama.commitTerminalResult G input db).2
    rcases commitTerminalResult_cases G input db with ⟨db'', hcommitted⟩ | hsame
    · rw [hcommitted]
      intro round hround
      change round ∈ db''.gameRound at hround
      rw [(stored_of_committed hcommitted).2.gameRound] at hround
      rcases Table.mem_modify_cases hround with ⟨old, hold, -, rfl⟩ | ⟨hround, -⟩
      · exact h old hold
      · exact h round hround
    · rw [hsame]
      exact h

theorem Clean.no_details (h : Clean db) {roundId : String} {round : GameRoundRow}
    (hround : db.gameRound.find? roundId = some round) (hopen : round.status ≠ .completed) :
    (db.roundParticipant.rows.filter fun p => p.roundId = roundId) = [] ∧
      (db.roundDiscovery.rows.filter fun d => d.roundId = roundId) = [] ∧
      (db.roundLike.rows.filter fun l => l.roundId = roundId) = [] := by
  obtain ⟨hmem, hid⟩ := Table.find?_eq_some.mp hround
  have hnot : ¬ Recorded db roundId := by
    rintro ⟨round', hround', hid', hstatus⟩
    rw [Table.eq_of_key hround' hmem (hid'.trans hid.symm)] at hstatus
    exact hopen hstatus
  refine ⟨List.filter_eq_nil_iff.mpr fun p hp heq => ?_,
    List.filter_eq_nil_iff.mpr fun d hd heq => ?_, List.filter_eq_nil_iff.mpr fun l hl heq => ?_⟩
  · rw [decide_eq_true_eq] at heq
    exact hnot (heq ▸ h.participant p hp)
  · rw [decide_eq_true_eq] at heq
    exact hnot (heq ▸ h.discovery d hd)
  · rw [decide_eq_true_eq] at heq
    exact hnot (heq ▸ h.like l hl)

end

end HiveChameleon.Nakama
