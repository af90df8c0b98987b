import HiveChameleon.Nakama.StoredResult
import HiveChameleon.Publisher.PublicMatch
import Mathlib.Data.List.Dedup

/-!
# Publisher.StoredCandidate — the candidate row of a stored result

What the candidate query returns for the request of a result that `commitTerminalResult` has just
stored, in terms of that result.
-/

namespace HiveChameleon.Publisher.PublicMatch

open Gateway Lib Nakama

/-! ### The rows of the round -/

/-- The details that the publisher reads for the round are those of the result. -/
structure PublishedRows (input : TerminalResultCommit) (pub : PublisherDb) : Prop where
  participantRows : (players pub input.roundId).Perm
    (input.participants.map (participantRow input.roundId))
  discoveryRows : (roundDiscoveries pub input.roundId).Perm
    (input.discoveries.map (discoveryRow input.roundId))
  likedNames : likedAccounts pub input.roundId =
    input.likes.map fun l => pub.hiveUsername l.targetHiderPlayerId
  scores : ∀ p ∈ input.participants, numericDigits p.finalScore ≤ 14

/-- The row that the query returns. -/
def storedRow (pub : PublisherDb) (input : TerminalResultCommit) (canonicalSha256 : String) :
    CandidateRow where
  publicationRequestId := input.publicationRequestId
  resultRevisionId := input.revisionId
  roundId := input.roundId
  completedAt := pub.date input.endedAt
  columns := pub.columns input.roundId
  resultSchemaVersion := input.resultSchemaVersion
  scoringRuleVersion := input.scoringRuleVersion
  winningSide := winningSideText input.winningSide
  winnerAccounts :=
    .array ((accountsWith pub input.roundId [.hunterWin, .hiderSurvived]).map Json.string)
  participants := .array ((players pub input.roundId).map (participantObject pub))
  discoveries := .array ((roundDiscoveries pub input.roundId).map (discoveryObject pub))
  survivors := .array ((accountsWith pub input.roundId [.hiderSurvived]).map Json.string)
  likes := .array ((likeAccounts pub input.roundId).map (likeObject pub input.roundId))
  resultSha256 := canonicalSha256

section

variable {G : GoRuntime} {input : TerminalResultCommit} {canonicalSha256 : String} {db : GameDb}
  {pub : PublisherDb}

theorem filter_new {α β : Type} {old : List α} {news : List β} (round : α → String)
    (row : β → α) {roundId : String} (hold : (old.filter fun a => round a = roundId) = [])
    (hrow : ∀ b, round (row b) = roundId) :
    ((old ++ news.map row).filter fun a => round a = roundId) = news.map row := by
  have hnew : ((news.map row).filter fun a => round a = roundId) = news.map row := by
    refine List.filter_eq_self.mpr fun a ha => ?_
    obtain ⟨b, -, rfl⟩ := List.mem_map.mp ha
    exact decide_eq_true (hrow b)
  rw [List.filter_append, hold, hnew, List.nil_append]

theorem publishedRows_of_stored (h : Stored input canonicalSha256 db pub.game) (hclean : Clean db) :
    PublishedRows input pub := by
  obtain ⟨round, hround, hstatus⟩ := h.round
  have hopen : round.status ≠ .completed := by
    rw [hstatus]
    decide
  obtain ⟨hparticipants, hdiscoveries, hlikes⟩ := hclean.no_details hround hopen
  refine ⟨?_, ?_, ?_, h.scores⟩
  · rw [players, h.participants, filter_new RoundParticipantRow.roundId _ hparticipants
      fun _ => rfl]
    exact List.perm_insertionSort _ _
  · rw [roundDiscoveries, h.discoveries, filter_new RoundDiscoveryRow.roundId _ hdiscoveries
      fun _ => rfl]
    exact List.perm_insertionSort _ _
  · rw [likedAccounts, h.likes, filter_new RoundLikeRow.roundId _ hlikes fun _ => rfl,
      List.map_map]
    rfl

theorem candidateRow_of_stored (h : Stored input canonicalSha256 db pub.game) :
    candidateRow pub (initialRequestRow input) = some (storedRow pub input canonicalSha256) := by
  obtain ⟨round, hround, hstatus⟩ := h.round
  have hid : round.id = input.roundId := (Table.find?_eq_some.mp hround).2
  have hcompleted : pub.game.gameRound.find? input.roundId =
      some (round.complete input.winningSide canonicalSha256 input.endedAt) := by
    rw [h.gameRound, Table.find?_modify, hround, Option.map_some, Table.updated, if_pos ⟨hid, hstatus⟩]
  have hcompleteId : (round.complete input.winningSide canonicalSha256 input.endedAt).id =
      input.roundId := hid
  simp only [candidateRow, initialRequestRow, hcompleted, h.revision, Option.bind_eq_bind,
    Option.bind_some, hcompleteId]
  rfl

/-! ### Its accounts -/

/-- The names are account names, different for different participants, and the map and the server have
values that their columns describe. -/
structure ValidIdentities (pub : PublisherDb) (input : TerminalResultCommit) : Prop where
  account : ∀ p ∈ input.participants, Gateway.hiveAccountSchema (pub.hiveUsername p.playerId) = true
  distinct : ∀ p ∈ input.participants, ∀ q ∈ input.participants,
    pub.hiveUsername p.playerId = pub.hiveUsername q.playerId → p.playerId = q.playerId
  mapId : isUuidV7 (pub.columns input.roundId).mapId = true
  mapVersionId : isUuidV7 (pub.columns input.roundId).mapVersionId = true
  mapVersion : boundedLength 1 32 (pub.columns input.roundId).mapVersion = true
  mapContent : Gateway.sha256Schema (pub.columns input.roundId).mapContentSha256 = true
  build : boundedLength 1 64 (pub.columns input.roundId).gameServerBuildVersion = true
  protocol : Gateway.controlledCodeSchema (pub.columns input.roundId).protocolVersion = true
  tournament : ∀ id ∈ (pub.columns input.roundId).tournamentId, isUuidV7 id = true

/-- The accounts of the participants, in the order of the result. -/
def accounts (pub : PublisherDb) (input : TerminalResultCommit) : List String :=
  input.participants.map fun p => pub.hiveUsername p.playerId

theorem PublishedRows.mem_players (h : PublishedRows input pub) {p : RoundParticipantRow} :
    p ∈ players pub input.roundId ↔
      ∃ q ∈ input.participants, participantRow input.roundId q = p := by
  rw [h.participantRows.mem_iff, List.mem_map]

/-- The accounts of the players are those of the participants. -/
theorem PublishedRows.perm_accounts (h : PublishedRows input pub) :
    ((players pub input.roundId).map fun p => pub.hiveUsername p.playerId).Perm
      (accounts pub input) := by
  have hperm := h.participantRows.map fun p => pub.hiveUsername p.playerId
  rwa [List.map_map] at hperm

theorem ValidIdentities.nodup_accounts (hids : ValidIdentities pub input)
    (hvalid : ValidTerminalResult G input) : (accounts pub input).Nodup := by
  have hplayers := hvalid.players
  refine List.Nodup.map_on (fun p hp q hq heq => ?_) (List.Nodup.of_map _ hplayers)
  exact List.inj_on_of_nodup_map hplayers hp hq (hids.distinct p hp q hq heq)

theorem accountsWith_sublist (outcomes : List ParticipantOutcome) :
    (accountsWith pub input.roundId outcomes).Sublist
      ((players pub input.roundId).map fun p => pub.hiveUsername p.playerId) :=
  List.filter_sublist.map _

theorem PublishedRows.accountsWith_subset (h : PublishedRows input pub)
    (outcomes : List ParticipantOutcome) :
    accountsWith pub input.roundId outcomes ⊆ accounts pub input := fun _ ha =>
  h.perm_accounts.mem_iff.mp ((accountsWith_sublist outcomes).subset ha)

theorem PublishedRows.nodup_accountsWith (h : PublishedRows input pub)
    (hnodup : (accounts pub input).Nodup) (outcomes : List ParticipantOutcome) :
    (accountsWith pub input.roundId outcomes).Nodup :=
  (accountsWith_sublist outcomes).nodup (h.perm_accounts.nodup_iff.mpr hnodup)

theorem length_accounts : (accounts pub input).length = input.participants.length :=
  List.length_map _

/-- A list of different accounts of participants is no longer than theirs. -/
theorem length_le_of_subset {names : List String} (hnodup : names.Nodup)
    (hsubset : names ⊆ accounts pub input) : names.length ≤ input.participants.length := by
  have hle := (List.subperm_of_subset hnodup hsubset).length_le
  rwa [length_accounts] at hle

theorem PublishedRows.no_winners (h : PublishedRows input pub) (hvalid : ValidTerminalResult G input)
    (hside : input.winningSide = .none) :
    accountsWith pub input.roundId [.hunterWin, .hiderSurvived] = [] := by
  rw [accountsWith, List.map_eq_nil_iff, List.filter_eq_nil_iff]
  intro p hp hwinner
  obtain ⟨q, hq, rfl⟩ := h.mem_players.mp hp
  have hnot := hvalid.winners.mp hside q hq
  have houtcome : q.outcome = .hunterWin ∨ q.outcome = .hiderSurvived := by
    simpa [participantRow] using hwinner
  rcases houtcome with houtcome | houtcome
  · simp [isWinner, houtcome] at hnot
  · simp [isWinner, houtcome] at hnot

/-! ### Its discoveries and likes -/

theorem mem_of_findPlayer {playerId : String} {p : TerminalParticipant}
    (h : findPlayer input.participants playerId = some p) :
    p ∈ input.participants ∧ p.playerId = playerId :=
  ⟨List.mem_of_find?_eq_some h, by simpa using List.find?_some h⟩

theorem mem_accounts_of_findPlayer {playerId : String} {p : TerminalParticipant}
    (h : findPlayer input.participants playerId = some p) :
    pub.hiveUsername playerId ∈ accounts pub input := by
  obtain ⟨hmem, rfl⟩ := mem_of_findPlayer h
  exact List.mem_map_of_mem hmem

theorem PublishedRows.discovery_accounts (h : PublishedRows input pub)
    (hvalid : ValidTerminalResult G input) {d : RoundDiscoveryRow}
    (hd : d ∈ roundDiscoveries pub input.roundId) :
    pub.hiveUsername d.hunterPlayerId ∈ accounts pub input ∧
      pub.hiveUsername d.hiderPlayerId ∈ accounts pub input := by
  rw [h.discoveryRows.mem_iff, List.mem_map] at hd
  obtain ⟨discovery, hdiscovery, rfl⟩ := hd
  have hvalues := hvalid.discovery discovery hdiscovery
  obtain ⟨hunter, hhunter, -⟩ := hvalues.hunter
  obtain ⟨hider, hhider, -⟩ := hvalues.hider
  exact ⟨mem_accounts_of_findPlayer hhunter, mem_accounts_of_findPlayer hhider⟩

theorem PublishedRows.length_discoveries (h : PublishedRows input pub)
    (hvalid : ValidTerminalResult G input) :
    (roundDiscoveries pub input.roundId).length ≤ input.participants.length := by
  have hsubset : input.discoveries.map (·.hiderPlayerId) ⊆ input.participants.map (·.playerId) := by
    intro playerId hplayer
    obtain ⟨d, hd, rfl⟩ := List.mem_map.mp hplayer
    obtain ⟨hider, hhider, -⟩ := (hvalid.discovery d hd).hider
    obtain ⟨hmem, heq⟩ := mem_of_findPlayer hhider
    exact List.mem_map.mpr ⟨hider, hmem, heq⟩
  have hle := (List.subperm_of_subset hvalid.hiders hsubset).length_le
  rw [List.length_map, List.length_map] at hle
  rw [h.discoveryRows.length_eq, List.length_map]
  exact hle

theorem PublishedRows.likeAccounts_subset (h : PublishedRows input pub)
    (hvalid : ValidTerminalResult G input) :
    likeAccounts pub input.roundId ⊆ accounts pub input := by
  intro account haccount
  rw [likeAccounts, (List.perm_insertionSort _ _).mem_iff, List.mem_dedup, h.likedNames,
    List.mem_map] at haccount
  obtain ⟨l, hl, rfl⟩ := haccount
  obtain ⟨target, htarget, -⟩ := (hvalid.like l hl).target
  exact mem_accounts_of_findPlayer htarget

theorem nodup_likeAccounts : (likeAccounts pub input.roundId).Nodup :=
  (List.perm_insertionSort _ _).nodup_iff.mpr (List.nodup_dedup _)

/-- **Nobody receives more than nine likes**: the voters differ, and nobody votes for himself. -/
theorem PublishedRows.count_le (h : PublishedRows input pub) (hvalid : ValidTerminalResult G input)
    (hids : ValidIdentities pub input) (account : String) :
    (likedAccounts pub input.roundId).count account ≤ 9 := by
  set votes := input.likes.filter fun l => pub.hiveUsername l.targetHiderPlayerId = account with hvotes
  have hcount : (likedAccounts pub input.roundId).count account = votes.length := by
    rw [h.likedNames, List.count, List.countP_map, List.countP_eq_length_filter]
    exact congrArg List.length (List.filter_congr fun l _ => by rw [Function.comp_apply, beq_eq_decide])
  rw [hcount]
  by_cases hempty : votes = []
  · rw [hempty]
    exact Nat.zero_le _
  obtain ⟨first, hfirst⟩ := List.exists_mem_of_ne_nil votes hempty
  have hmem {l : TerminalLike} (hl : l ∈ votes) :
      l ∈ input.likes ∧ pub.hiveUsername l.targetHiderPlayerId = account := by
    simpa [hvotes] using hl
  obtain ⟨hfirstLike, hfirstName⟩ := hmem hfirst
  obtain ⟨target, htarget, -⟩ := (hvalid.like first hfirstLike).target
  obtain ⟨htargetMem, htargetId⟩ := mem_of_findPlayer htarget
  -- the voters are the players other than the one with this account
  have hvoters : votes.map (·.voterPlayerId) ⊆
      (input.participants.map (·.playerId)).erase target.playerId := by
    intro playerId hplayer
    obtain ⟨l, hl, rfl⟩ := List.mem_map.mp hplayer
    obtain ⟨hlike, hname⟩ := hmem hl
    have hvalidLike := hvalid.like l hlike
    obtain ⟨voter, hvoter⟩ := Option.isSome_iff_exists.mp hvalidLike.voter
    obtain ⟨hvoterMem, hvoterId⟩ := mem_of_findPlayer hvoter
    obtain ⟨other, hother, -⟩ := hvalidLike.target
    obtain ⟨hotherMem, hotherId⟩ := mem_of_findPlayer hother
    have hsame : other.playerId = target.playerId := by
      refine hids.distinct other hotherMem target htargetMem ?_
      rw [hotherId, htargetId, hname, hfirstName]
    refine (hvalid.players.mem_erase_iff).mpr ⟨?_, List.mem_map.mpr ⟨voter, hvoterMem, hvoterId⟩⟩
    rw [← hsame, hotherId]
    exact hvalidLike.values.1
  have hnodup : (votes.map (·.voterPlayerId)).Nodup :=
    (List.filter_sublist.map _).nodup hvalid.voters
  have hle := (List.subperm_of_subset hnodup hvoters).length_le
  rw [List.length_map, List.length_erase_of_mem (List.mem_map_of_mem htargetMem),
    List.length_map] at hle
  have hten := hvalid.count.2
  omega

end

end HiveChameleon.Publisher.PublicMatch
