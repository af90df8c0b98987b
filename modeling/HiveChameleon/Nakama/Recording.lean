import HiveChameleon.Nakama.RoundInvariant
import HiveChameleon.Nakama.TerminalResult

/-!
# Nakama.Recording — which ended rounds a terminal result can record

The round machine decides who won and which hiders were found; the validator has its own rules on
outcomes.  A terminal result that records a round repeats its assignments, discoveries and winner;
everything else in it is free.
-/

namespace HiveChameleon.Nakama

open Lib

/-- The outcome a round leaves a player with: hunters win or lose together, and a hider was found
or survived. -/
def consistentOutcome (s : CasualRoundState) (a : RoundRoleAssignment) : ParticipantOutcome :=
  match a.role with
  | .hunter => if s.winningSide = .hunters then .hunterWin else .hunterLoss
  | _ => if a.playerId ∈ s.foundHiders then .hiderFound else .hiderSurvived

/-- The terminal result states what happened in the round. -/
structure Records (round : RoundSnapshot) (s : CasualRoundState) (input : TerminalResultCommit) :
    Prop where
  roundId : input.roundId = s.roundId
  winningSide : input.winningSide = s.winningSide
  participants :
    (input.participants.map fun p => (p.playerId, p.hunterVolunteer, p.initialRole, p.outcome)).Perm
      (round.roleAssignments.map fun a =>
        (a.playerId, a.hunterVolunteer, a.role, consistentOutcome s a))
  discoveries :
    (input.discoveries.map fun d =>
        (d.hunterPlayerId, d.hiderPlayerId, d.sequence, d.occurredAt)).Perm
      (s.discoveries.map fun d => (d.hunterPlayerId, d.hiderPlayerId, d.sequence, d.occurredAt))

/-- Some terminal result of the round passes `validateTerminalResult`. -/
def Recordable (G : GoRuntime) (round : RoundSnapshot) (s : CasualRoundState) : Prop :=
  ∃ input sha, Records round s input ∧ validateTerminalResult G input = .ok sha

/-- The identifiers, the roster size and the times that any terminal result must have, and no found
hider beside winning hiders. -/
structure RecordableRound (round : RoundSnapshot) (s : CasualRoundState) : Prop where
  roundId : canonicalUUIDV7 round.id = true
  players : ∀ a ∈ round.roleAssignments, canonicalUUIDV7 a.playerId = true
  count : round.roleAssignments.length ≤ 10
  times : ∀ d ∈ s.discoveries, d.occurredAt ≠ 0
  outcome : s.winningSide = .hunters ∨ s.discoveries = []

section

variable {G : GoRuntime} {round : RoundSnapshot} {s : CasualRoundState}

theorem recordableRound_of_recordable (h : RoundInvariant round s) (hterm : s.phase = .terminal)
    (hrec : Recordable G round s) : RecordableRound round s := by
  obtain ⟨input, sha, hr, hok⟩ := hrec
  obtain ⟨hv, -⟩ := validateTerminalResult_eq_ok.mp hok
  have hparticipant : ∀ a ∈ round.roleAssignments, ∃ p ∈ input.participants,
      p.playerId = a.playerId ∧ p.initialRole = a.role ∧ p.outcome = consistentOutcome s a := by
    intro a ha
    obtain ⟨p, hp, heq⟩ := List.mem_map.mp
      (hr.participants.mem_iff.mpr (List.mem_map.mpr ⟨a, ha, rfl⟩))
    simp only [Prod.mk.injEq] at heq
    exact ⟨p, hp, heq.1, heq.2.2.1, heq.2.2.2⟩
  refine ⟨?_, fun a ha => ?_, ?_, fun d hd => ?_, ?_⟩
  · rw [← h.roundId, ← hr.roundId]; exact hv.roundId
  · obtain ⟨p, hp, hid, -⟩ := hparticipant a ha
    rw [← hid]; exact (hv.participant p hp).playerId
  · have hlen := hr.participants.length_eq
    rw [List.length_map, List.length_map] at hlen
    rw [← hlen]; exact hv.count.2
  · obtain ⟨e, he, heq⟩ := List.mem_map.mp
      (hr.discoveries.mem_iff.mpr (List.mem_map.mpr ⟨d, hd, rfl⟩))
    simp only [Prod.mk.injEq] at heq
    rw [← heq.2.2.2]; exact (hv.discovery e he).values.2.2
  · cases h.standing with
    | running hr => rcases hr with hp | hp | hp <;> rw [hp] at hterm <;> cases hterm
    | huntersWon _ hside => exact .inl hside
    | hidersWon _ hside =>
      right
      by_contra hne
      obtain ⟨d, hd⟩ := List.exists_mem_of_ne_nil _ hne
      obtain ⟨a, ha, hrole, hid⟩ := mem_hiderIds.mp (h.found_hider d hd)
      have hfound : a.playerId ∈ s.foundHiders := by
        rw [h.mem_found, hid]
        exact List.mem_map.mpr ⟨d, hd, rfl⟩
      obtain ⟨p, hp, -, hinitial, houtcome⟩ := hparticipant a ha
      have hoc : p.outcome = .hiderFound := by
        rw [houtcome]; simp [consistentOutcome, hrole, hfound]
      have hvalid := (hv.participant p hp).roleOutcome
      rw [hr.winningSide, hside] at hvalid
      simp [validateParticipantRoleOutcome, hoc, hinitial, hrole] at hvalid

/-! ### The record of a recordable round -/

def recordedParticipant (s : CasualRoundState) (a : RoundRoleAssignment) : TerminalParticipant where
  id := a.playerId
  playerId := a.playerId
  hunterVolunteer := a.hunterVolunteer
  initialRole := a.role
  finalRole := a.role
  characterForm := "humanoid"
  sizePreset := "x1_0"
  outcome := consistentOutcome s a
  survivalDurationMs := none
  finalScore := "0.0000"
  scoreBreakdown := emptyJsonObject
  foundOrConvertedAt := (s.foundHiders.lookup a.playerId).map (·.occurredAt)
  reconnected := false

def recordedDiscovery (d : RoundDiscoverySnapshot) : TerminalDiscovery where
  id := d.hiderPlayerId
  hunterPlayerId := d.hunterPlayerId
  hiderPlayerId := d.hiderPlayerId
  sequence := d.sequence
  occurredAt := d.occurredAt
  causedInfectionConversion := false

/-- A terminal result of the round, with the player identifiers reused as row identifiers. -/
def recordedResult (round : RoundSnapshot) (s : CasualRoundState) : TerminalResultCommit where
  roundId := s.roundId
  revisionId := s.roundId
  publicationRequestId := s.roundId
  endedAt := 1
  winningSide := s.winningSide
  resultSchemaVersion := "match-result-1"
  scoringRuleVersion := "scoring-1"
  canonicalCompleteResult := emptyJsonObject
  canonicalResultObjectKey := "result"
  participants := round.roleAssignments.map (recordedParticipant s)
  discoveries := s.discoveries.map recordedDiscovery
  likes := []

theorem records_recordedResult : Records round s (recordedResult round s) where
  roundId := rfl
  winningSide := rfl
  participants := by simp [recordedResult, Function.comp_def, recordedParticipant]
  discoveries := by simp [recordedResult, Function.comp_def, recordedDiscovery]

theorem findPlayer_recorded {assignments : List RoundRoleAssignment}
    (hnodup : (assignments.map (·.playerId)).Nodup) {a : RoundRoleAssignment}
    (ha : a ∈ assignments) :
    findPlayer (assignments.map (recordedParticipant s)) a.playerId =
      some (recordedParticipant s a) := by
  cases hfind : findPlayer (assignments.map (recordedParticipant s)) a.playerId with
  | none =>
    have := List.find?_eq_none.mp hfind _ (List.mem_map.mpr ⟨a, ha, rfl⟩)
    simp [recordedParticipant] at this
  | some p =>
    obtain ⟨b, hb, rfl⟩ := List.mem_map.mp (List.mem_of_find?_eq_some hfind)
    have hid : b.playerId = a.playerId := of_decide_eq_true
      (List.find?_some (p := fun p : TerminalParticipant => p.playerId = a.playerId) hfind)
    rw [List.inj_on_of_nodup_map hnodup hb ha hid]

theorem participantValid_recorded (h : RoundInvariant round s) (hc : RecordableRound round s)
    (hterm : s.phase = .terminal) {a : RoundRoleAssignment} (ha : a ∈ round.roleAssignments) :
    ParticipantValid G s.winningSide (recordedParticipant s a) := by
  have hfoundAt : a.playerId ∈ s.foundHiders → (s.foundHiders.lookup a.playerId).isSome :=
    AList.lookup_isSome.mpr
  have houtcome : validateParticipantRoleOutcome (recordedParticipant s a) s.winningSide = .ok () ∧
      validParticipantOutcome (consistentOutcome s a) = true := by
    rcases h.seated.role a ha with hrole | hrole
    · cases h.standing with
      | running hr => rcases hr with hp | hp | hp <;> rw [hp] at hterm <;> cases hterm
      | huntersWon _ hside _ hlen =>
        -- the hunters found every hider
        have hfound : a.playerId ∈ s.foundHiders :=
          (h.mem_found _).mpr (h.all_found hlen (mem_hiderIds.mpr ⟨a, ha, hrole, rfl⟩))
        obtain ⟨d, hd⟩ := Option.isSome_iff_exists.mp (hfoundAt hfound)
        simp [validateParticipantRoleOutcome, recordedParticipant, consistentOutcome, hrole, hfound,
          hside, hd, validParticipantOutcome]
      | hidersWon _ hside =>
        rcases hc.outcome with hwon | hnone
        · rw [hside] at hwon; cases hwon
        have hfound : a.playerId ∉ s.foundHiders := by
          rw [h.mem_found, hnone]; simp
        simp [validateParticipantRoleOutcome, recordedParticipant, consistentOutcome, hrole, hfound,
          hside, validParticipantOutcome]
    · by_cases hside : s.winningSide = .hunters
      · simp [validateParticipantRoleOutcome, recordedParticipant, consistentOutcome, hrole, hside,
          validParticipantOutcome]
      · simp [validateParticipantRoleOutcome, recordedParticipant, consistentOutcome, hrole, hside,
          validParticipantOutcome]
  have hvalidRole : validPlayerRole a.role = true := by
    rcases h.seated.role a ha with hrole | hrole <;> rw [hrole] <;> rfl
  have hscore : fixedScorePattern "0.0000" = true := by decide
  exact ⟨hc.players a ha, hc.players a ha, ⟨hvalidRole, hvalidRole⟩, ⟨houtcome.2, hscore⟩,
    houtcome.1, by simp [recordedParticipant], .inr G.jsonValid_object⟩

theorem discoveryValid_recorded (h : RoundInvariant round s) (hc : RecordableRound round s)
    {d : RoundDiscoverySnapshot} (hd : d ∈ s.discoveries) :
    DiscoveryValid (round.roleAssignments.map (recordedParticipant s)) (recordedDiscovery d) := by
  obtain ⟨a, ha, harole, haid⟩ := mem_hiderIds.mp (h.found_hider d hd)
  obtain ⟨b, hb, hbrole, hbid⟩ := (h.seated.mem_hunters _).mp (h.finder d hd)
  have hsequence : 0 < d.sequence := by
    have hmem : d.sequence ∈ (List.range' 1 s.discoveries.length).map Nat.cast :=
      h.sequence ▸ List.mem_map.mpr ⟨d, hd, rfl⟩
    obtain ⟨n, hn, hcast⟩ := List.mem_map.mp hmem
    have := (List.mem_range'_1.mp hn).1
    rw [← hcast]; exact_mod_cast this
  refine ⟨?_, ⟨recordedParticipant s b, ?_, hbrole⟩, ⟨recordedParticipant s a, ?_, harole⟩, ?_, hsequence,
    hc.times d hd⟩
  · change canonicalUUIDV7 d.hiderPlayerId = true
    rw [← haid]; exact hc.players a ha
  · change findPlayer _ d.hunterPlayerId = some (recordedParticipant s b)
    rw [← hbid]; exact findPlayer_recorded h.seated.players_nodup hb
  · change findPlayer _ d.hiderPlayerId = some (recordedParticipant s a)
    rw [← haid]; exact findPlayer_recorded h.seated.players_nodup ha
  · intro heq
    have hid : b.playerId = a.playerId := hbid.trans (heq.trans haid.symm)
    rw [List.inj_on_of_nodup_map h.seated.players_nodup hb ha hid, harole] at hbrole
    cases hbrole

theorem contiguous_recorded (h : RoundInvariant round s) :
    contiguousSequences (s.discoveries.map recordedDiscovery) := by
  have hmap : (s.discoveries.map recordedDiscovery).map (·.sequence) =
      (List.range' 1 s.discoveries.length).map Nat.cast := by
    rw [List.map_map, ← h.sequence]; rfl
  rw [contiguousSequences, hmap, List.length_map]
  refine List.Pairwise.insertionSort_eq ?_
  refine List.pairwise_map.mpr ((List.pairwise_le_range' 1).imp ?_)
  intro m n hmn
  exact_mod_cast hmn

theorem exists_winner_recorded (h : RoundInvariant round s) (hc : RecordableRound round s)
    (hterm : s.phase = .terminal) : s.winningSide ≠ .none ∧
      ∃ a ∈ round.roleAssignments, isWinner (recordedParticipant s a) = true := by
  cases h.standing with
  | running hr => rcases hr with hp | hp | hp <;> rw [hp] at hterm <;> cases hterm
  | huntersWon _ hside =>
    obtain ⟨p, hp⟩ := h.players.1
    obtain ⟨a, ha, hrole, -⟩ := (h.seated.mem_hunters p).mp hp
    exact ⟨by rw [hside]; nofun, a, ha,
      by simp [isWinner, recordedParticipant, consistentOutcome, hrole, hside]⟩
  | hidersWon _ hside =>
    rcases hc.outcome with hwon | hnone
    · rw [hside] at hwon; cases hwon
    have hpos : hiderIds round.roleAssignments ≠ [] := by
      intro hnil
      apply h.players.2
      rw [h.seated.hiders_len, hnil]; rfl
    obtain ⟨p, hp⟩ := List.exists_mem_of_ne_nil _ hpos
    obtain ⟨a, ha, hrole, -⟩ := mem_hiderIds.mp hp
    have hfound : a.playerId ∉ s.foundHiders := by
      rw [h.mem_found, hnone]; simp
    exact ⟨by rw [hside]; nofun, a, ha,
      by simp [isWinner, recordedParticipant, consistentOutcome, hrole, hfound]⟩

theorem recordable_of_recordableRound (h : RoundInvariant round s) (hterm : s.phase = .terminal)
    (hc : RecordableRound round s) : Recordable G round s := by
  obtain ⟨hside, w, hw, hwinner⟩ := exists_winner_recorded h hc hterm
  refine ⟨recordedResult round s, _, records_recordedResult,
    validateTerminalResult_eq_ok.mpr ⟨?_, rfl⟩⟩
  have hround : canonicalUUIDV7 s.roundId = true := by rw [h.roundId]; exact hc.roundId
  have hids : ((round.roleAssignments.map (recordedParticipant s)).map (·.playerId)).Nodup := by
    rw [List.map_map]; exact h.seated.players_nodup
  have htwo : 2 ≤ round.roleAssignments.length := by
    obtain ⟨p, hp⟩ := h.players.1
    obtain ⟨a, ha, harole, -⟩ := (h.seated.mem_hunters p).mp hp
    have hhiders : 0 < (round.roleAssignments.filter fun b => b.role = .hider).length := by
      have := h.players.2
      rw [h.seated.hiders_len, hiderIds, List.length_map] at this
      omega
    have hothers : 0 < (round.roleAssignments.filter fun b => ¬ b.role = .hider).length :=
      List.length_pos_of_mem (List.mem_filter.mpr ⟨ha, by simp [harole]⟩)
    have := List.length_eq_length_filter_add (l := round.roleAssignments)
      (f := fun b => decide (b.role = .hider))
    simp only [decide_not] at hothers
    omega
  have hwon : s.winningSide = .hiders ∨ s.winningSide = .hunters ∨ s.winningSide = .none := by
    cases h.standing with
    | running hr => rcases hr with hp | hp | hp <;> rw [hp] at hterm <;> cases hterm
    | huntersWon _ hside => exact .inr (.inl hside)
    | hidersWon _ hside => exact .inl hside
  exact {
    roundId := hround
    revisionId := hround
    publicationRequestId := hround
    endedAt := by simp [recordedResult]
    winningSide := hwon
    versions := ⟨(by decide : controlledVersion "match-result-1" = true),
      (by decide : controlledVersion "scoring-1" = true)⟩
    size := ⟨List.cons_ne_nil _ _,
      (by decide : emptyJsonObject.length ≤ maximumCanonicalResultBytes)⟩
    json := G.jsonValid_object
    objectKey := ⟨(by decide : "result" ≠ ""), (by decide : "result".utf8ByteSize ≤ 1024)⟩
    count := by
      change 2 ≤ (round.roleAssignments.map _).length ∧ (round.roleAssignments.map _).length ≤ 10
      rw [List.length_map]
      exact ⟨htwo, hc.count⟩
    participantIds := by
      change ((round.roleAssignments.map (recordedParticipant s)).map (·.id)).Nodup
      rw [List.map_map]; exact h.seated.players_nodup
    players := hids
    participant := by
      intro p hp
      obtain ⟨a, ha, rfl⟩ := List.mem_map.mp hp
      exact participantValid_recorded h hc hterm ha
    winners := by
      refine iff_of_false hside fun hall => ?_
      have := hall _ (List.mem_map.mpr ⟨w, hw, rfl⟩)
      rw [hwinner] at this; cases this
    hiders := by
      change ((s.discoveries.map recordedDiscovery).map (·.hiderPlayerId)).Nodup
      rw [List.map_map]; exact h.found_nodup
    discovery := by
      intro e he
      obtain ⟨d, hd, rfl⟩ := List.mem_map.mp he
      exact discoveryValid_recorded h hc hd
    sequences := contiguous_recorded h
    voters := List.nodup_nil
    like := fun like hlike => absurd hlike List.not_mem_nil }

/-- **Which ended rounds can be recorded.**  For every terminal state a Casual round reaches, a
terminal result that records it passes validation if and only if the identifiers, the roster and
the times are those of a terminal result, and the hiders did not win after one of them was found. -/
theorem terminal_round_recordable_iff {s₀ : CasualRoundState}
    {ts : List (Transition CasualRoundState RoundCall)}
    (hnew : newCasualRoundState round = .ok s₀) (h : Run RoundStep s₀ ts s)
    (hterm : s.phase = .terminal) : Recordable G round s ↔ RecordableRound round s := by
  have hinv := RoundInvariant.run hnew h
  exact ⟨recordableRound_of_recordable hinv hterm, recordable_of_recordableRound hinv hterm⟩

end

/-! ### One hunter and two hiders -/

/-- Player `01890f3e-0000-7000-8000-0000000000a1` hunts `…a2` in slot 1 and `…a3` in slot 2. -/
def threePlayerRound : RoundSnapshot where
  id := "01890f3e-0000-7000-8000-000000000001"
  mode := "casual"
  startedAt := 1000
  targetSlotCount := 4
  hidingDurationSeconds := 1
  huntingDurationSeconds := 1
  shellLimit := 3
  reloadDurationMs := 1
  roleAssignments := [
    ⟨"01890f3e-0000-7000-8000-0000000000a1", .hunter, true, 0⟩,
    ⟨"01890f3e-0000-7000-8000-0000000000a2", .hider, false, 1⟩,
    ⟨"01890f3e-0000-7000-8000-0000000000a3", .hider, false, 2⟩]

/-- The hunt begins and the hunter finds the hider of slot 1. -/
def firstHit : List RoundCall := [
  .advance 3500000000,
  .handleFire "01890f3e-0000-7000-8000-0000000000a1" ⟨"shot-1", 1⟩ 3600000000]

/-- The hunter finds the other hider too. -/
def secondHit : RoundCall :=
  .handleFire "01890f3e-0000-7000-8000-0000000000a1" ⟨"shot-2", 2⟩ 3700000000

/-- **A round that hiders win by timeout after one of them was found has no valid record.** -/
theorem timeout_after_discovery_unrecordable :
    ∃ s₀ ts s, newCasualRoundState threePlayerRound = .ok s₀ ∧ Run RoundStep s₀ ts s ∧
      s.phase = .terminal ∧ s.winningSide = .hiders ∧ s.completionReason = .huntTimeout ∧
      s.discoveries.length = 1 ∧ ∀ G, ¬ Recordable G threePlayerRound s := by
  have hfacts : ∃ s, playRound threePlayerRound (firstHit ++ [.advance 5000000000]) = .ok s ∧
      s.phase = .terminal ∧ s.winningSide = .hiders ∧ s.completionReason = .huntTimeout ∧
      s.discoveries.length = 1 :=
    ⟨_, rfl, by decide, by decide, by decide, by decide⟩
  obtain ⟨s, hplay, hterm, hside, hreason, hone⟩ := hfacts
  obtain ⟨s₀, ts, hnew, hrun⟩ := playRound_run hplay
  refine ⟨s₀, ts, s, hnew, hrun, hterm, hside, hreason, hone, fun G hrec => ?_⟩
  rcases (recordableRound_of_recordable (RoundInvariant.run hnew hrun) hterm hrec).outcome with
    hwon | hnone
  · rw [hside] at hwon; cases hwon
  · rw [hnone] at hone; cases hone

theorem terminal_round_recordable_iff_all_found :
    ∃ s, playRound threePlayerRound (firstHit ++ [secondHit]) = .ok s ∧
      s.completionReason = .allHidersFound ∧ ∀ G, Recordable G threePlayerRound s := by
  have hfacts : ∃ s, playRound threePlayerRound (firstHit ++ [secondHit]) = .ok s ∧
      s.phase = .terminal ∧ s.winningSide = .hunters ∧ s.completionReason = .allHidersFound ∧
      ∀ d ∈ s.discoveries, d.occurredAt ≠ 0 :=
    ⟨_, rfl, by decide, by decide, by decide, by decide⟩
  obtain ⟨s, hplay, hterm, hside, hreason, htimes⟩ := hfacts
  obtain ⟨s₀, ts, hnew, hrun⟩ := playRound_run hplay
  refine ⟨s, hplay, hreason, fun G => ?_⟩
  exact (terminal_round_recordable_iff hnew hrun hterm).mpr
    ⟨by decide, by decide, by decide, htimes, .inl hside⟩

end HiveChameleon.Nakama
