import HiveChameleon.Nakama.CasualRound
import Mathlib.Data.List.Perm.Subperm

/-!
# Nakama.RoundInvariant — what every run of a Casual round keeps

The maps that `newCasualRoundState` fills from the role assignments, the discoveries that shots add
to them, and the two ways a round ends.
-/

namespace HiveChameleon.Nakama

open Lib

/-- The hiders of a list of assignments, in its order. -/
def hiderIds (assignments : List RoundRoleAssignment) : List String :=
  (assignments.filter fun a => a.role = .hider).map (·.playerId)

theorem mem_hiderIds {assignments : List RoundRoleAssignment} {playerId : String} :
    playerId ∈ hiderIds assignments ↔
      ∃ a ∈ assignments, a.role = .hider ∧ a.playerId = playerId := by
  simp [hiderIds, and_assoc]

/-! ### The seated round -/

/-- The maps of a round state hold exactly the assignments. -/
structure Seated (assignments : List RoundRoleAssignment) (s : CasualRoundState) : Prop where
  players_nodup : (assignments.map (·.playerId)).Nodup
  player_ne : ∀ a ∈ assignments, a.playerId ≠ ""
  role : ∀ a ∈ assignments, a.role = .hider ∨ a.role = .hunter
  mem_assignments : ∀ p, p ∈ s.assignments ↔ ∃ a ∈ assignments, a.playerId = p
  mem_hunters : ∀ p, p ∈ s.hunters ↔ ∃ a ∈ assignments, a.role = .hunter ∧ a.playerId = p
  hider : ∀ slot p, s.hiderBySlot.lookup slot = some p → p ∈ hiderIds assignments
  hiders_len : s.hiderBySlot.len = (hiderIds assignments).length

theorem seated_unseatedRound (round : RoundSnapshot) : Seated [] (unseatedRound round) where
  players_nodup := by simp
  player_ne := by simp
  role := by simp
  mem_assignments p := by simp [unseatedRound]
  mem_hunters p := by simp [unseatedRound]
  hider slot p h := by simp [unseatedRound] at h
  hiders_len := rfl

section Map

variable {K V : Type} [DecidableEq K] {m : GoMap K V} {k : K} {v : V}

theorem GoMap.len_insert (h : k ∉ m) : GoMap.len (m.insert k v) = m.len + 1 := by
  have hk : k ∉ m.keys := fun hmem => h (AList.mem_keys.mpr hmem)
  rw [GoMap.len, AList.keys_insert, List.erase_of_not_mem hk, List.length_cons, GoMap.len]

theorem GoMap.lookup_insert_cases {k' : K} {v' : V} (h : (m.insert k v).lookup k' = some v') :
    k' = k ∧ v' = v ∨ m.lookup k' = some v' := by
  by_cases hk : k' = k
  · subst hk
    rw [AList.lookup_insert, Option.some.injEq] at h
    exact .inl ⟨rfl, h.symm⟩
  · rw [AList.lookup_insert_ne hk] at h
    exact .inr h

end Map

theorem Seated.seat {round : RoundSnapshot} {assignments : List RoundRoleAssignment}
    {a : RoundRoleAssignment} {s s' : CasualRoundState} (h : Seated assignments s)
    (hok : seatAssignment round s a = .ok s') : Seated (assignments ++ [a]) s' := by
  obtain ⟨hne, hnew, hseat⟩ := seatAssignment_eq_ok.mp hok
  have hfresh : a.playerId ∉ assignments.map (·.playerId) := by
    intro hmem
    obtain ⟨b, hb, hid⟩ := List.mem_map.mp hmem
    exact hnew ((h.mem_assignments _).mpr ⟨b, hb, hid⟩)
  have hnodup : ((assignments ++ [a]).map (·.playerId)).Nodup := by
    rw [List.map_append, List.nodup_append]
    refine ⟨h.players_nodup, by simp, ?_⟩
    rintro p hp q hq rfl
    rw [List.map_singleton, List.mem_singleton] at hq
    exact hfresh (hq ▸ hp)
  have hplayers : ∀ b ∈ assignments ++ [a], b.playerId ≠ "" := by
    intro b hb
    rcases List.mem_append.mp hb with hb | hb
    · exact h.player_ne b hb
    · rw [List.mem_singleton.mp hb]; exact hne
  have hassigned : ∀ p, p ∈ s.assignments.insert a.playerId a ↔
      ∃ b ∈ assignments ++ [a], b.playerId = p := by
    intro p
    rw [AList.mem_insert, h.mem_assignments p]
    simp only [List.mem_append, List.mem_singleton, or_and_right, exists_or, exists_eq_left]
    rw [or_comm, eq_comm]
  have hroles : (a.role = .hider ∨ a.role = .hunter) →
      ∀ b ∈ assignments ++ [a], b.role = .hider ∨ b.role = .hunter := by
    intro ha b hb
    rcases List.mem_append.mp hb with hb | hb
    · exact h.role b hb
    · rw [List.mem_singleton.mp hb]; exact ha
  have hhunters : ∀ p, (∃ b ∈ assignments ++ [a], b.role = .hunter ∧ b.playerId = p) ↔
      (∃ b ∈ assignments, b.role = .hunter ∧ b.playerId = p) ∨ a.role = .hunter ∧ a.playerId = p := by
    intro p
    simp only [List.mem_append, List.mem_singleton, or_and_right, exists_or, exists_eq_left]
  rcases hseat with ⟨hrole, rfl⟩ | ⟨hrole, -, hslot, rfl⟩
  · refine ⟨hnodup, hplayers, hroles (.inr hrole), hassigned, fun p => ?_, ?_, ?_⟩
    · rw [hhunters p, AList.mem_insert, h.mem_hunters p, or_comm, eq_comm]
      simp [hrole]
    · intro slot p hp
      have := h.hider slot p hp
      simpa [hiderIds, hrole] using this
    · simpa [hiderIds, hrole] using h.hiders_len
  · refine ⟨hnodup, hplayers, hroles (.inl hrole), hassigned, fun p => ?_, ?_, ?_⟩
    · rw [hhunters p, h.mem_hunters p]
      simp [hrole]
    · intro slot p hp
      rcases GoMap.lookup_insert_cases hp with ⟨-, rfl⟩ | hp
      · simp [hiderIds, hrole]
      · have := h.hider slot p hp
        simp only [hiderIds, List.filter_append, List.map_append, List.mem_append]
        exact .inl this
    · rw [GoMap.len_insert hslot, h.hiders_len]
      simp [hiderIds, hrole]

theorem Seated.seatAll {round : RoundSnapshot} :
    ∀ {assignments done : List RoundRoleAssignment} {s s' : CasualRoundState}, Seated done s →
      seatAssignments round s assignments = .ok s' → Seated (done ++ assignments) s'
  | [], done, s, s', h, hok => by
    cases hok; simpa using h
  | a :: assignments, done, s, s', h, hok => by
    obtain ⟨mid, hmid, hok⟩ := seatAssignments_cons.mp hok
    have hall := (h.seat hmid).seatAll hok
    rw [List.append_assoc, List.singleton_append] at hall
    exact hall

/-- Seating touches the maps of players only. -/
theorem seatAssignment_frame {round : RoundSnapshot} {a : RoundRoleAssignment}
    {s s' : CasualRoundState} (hok : seatAssignment round s a = .ok s') :
    s' = { s with
      assignments := s'.assignments, hunters := s'.hunters, hiderBySlot := s'.hiderBySlot } := by
  obtain ⟨-, -, ⟨-, rfl⟩ | ⟨-, -, -, rfl⟩⟩ := seatAssignment_eq_ok.mp hok
  · rfl
  · rfl

theorem seatAssignments_frame {round : RoundSnapshot} :
    ∀ {assignments : List RoundRoleAssignment} {s s' : CasualRoundState},
      seatAssignments round s assignments = .ok s' →
      s' = { s with
        assignments := s'.assignments, hunters := s'.hunters, hiderBySlot := s'.hiderBySlot }
  | [], s, s', hok => by cases hok; rfl
  | a :: assignments, s, s', hok => by
    obtain ⟨mid, hmid, hok⟩ := seatAssignments_cons.mp hok
    rw [seatAssignments_frame hok, seatAssignment_frame hmid]

/-- The durations of a round whose rules are values of `integer` columns are values of
`time.Duration`. -/
theorem newCasualRoundState_durations {round : RoundSnapshot} {s : CasualRoundState}
    (hrules : ∀ rule ∈ [round.hidingDurationSeconds, round.huntingDurationSeconds,
      round.reloadDurationMs], rule < 2147483648) (h : newCasualRoundState round = .ok s) :
    ∀ duration ∈ [s.hidingDuration, s.huntingDuration, s.reloadDuration],
      0 < duration ∧ duration < 9223372036854775808 := by
  simp only [List.forall_mem_cons] at hrules ⊢
  obtain ⟨hhiding, hhunting, hreload, -⟩ := hrules
  unfold newCasualRoundState at h
  split at h
  · cases h
  split at h
  · cases h
  rename_i hpositive
  split at h
  · cases h
  rename_i seated hseats
  split at h
  · cases h
  obtain rfl := Except.ok.inj h
  rw [seatAssignments_frame hseats]
  dsimp only [unseatedRound]
  refine ⟨?_, ?_, ?_, fun _ hnone => absurd hnone List.not_mem_nil⟩ <;> omega

/-! ### The invariant -/

/-- How a round stands: running, won by the hunters with every hider found, or won by the hiders
when the hunt timed out. -/
inductive Standing (s : CasualRoundState) : Prop where
  | running (h : s.phase = .preparing ∨ s.phase = .hiding ∨ s.phase = .hunting)
  | huntersWon (h : s.phase = .terminal) (hside : s.winningSide = .hunters)
    (hreason : s.completionReason = .allHidersFound)
    (hfound : s.discoveries.length = s.hiderBySlot.len)
  | hidersWon (h : s.phase = .terminal) (hside : s.winningSide = .hiders)
    (hreason : s.completionReason = .huntTimeout)

/-- The invariant of a round with the assignments of `round`. -/
structure RoundInvariant (round : RoundSnapshot) (s : CasualRoundState) : Prop where
  seated : Seated round.roleAssignments s
  roundId : s.roundId = round.id
  players : (∃ p, p ∈ s.hunters) ∧ s.hiderBySlot.len ≠ 0
  mem_found : ∀ p, p ∈ s.foundHiders ↔ p ∈ s.discoveries.map (·.hiderPlayerId)
  found_len : s.foundHiders.len = s.discoveries.length
  found_nodup : (s.discoveries.map (·.hiderPlayerId)).Nodup
  found_hider : ∀ d ∈ s.discoveries, d.hiderPlayerId ∈ hiderIds round.roleAssignments
  finder : ∀ d ∈ s.discoveries, d.hunterPlayerId ∈ s.hunters
  sequence : s.discoveries.map (·.sequence) =
    (List.range' 1 s.discoveries.length).map Nat.cast
  standing : Standing s

namespace RoundInvariant

variable {round : RoundSnapshot} {s s' : CasualRoundState}

theorem init (hok : newCasualRoundState round = .ok s) : RoundInvariant round s := by
  unfold newCasualRoundState at hok
  split at hok
  · cases hok
  split at hok
  · cases hok
  split at hok
  · cases hok
  rename_i state hseat
  split at hok
  · cases hok
  rename_i hplayers
  cases hok
  have hseated : Seated round.roleAssignments s := by
    simpa using (seated_unseatedRound round).seatAll hseat
  have hframe := seatAssignments_frame hseat
  have hfound : s.foundHiders = ∅ := by rw [hframe]; rfl
  have hdiscoveries : s.discoveries = [] := by rw [hframe]; rfl
  refine ⟨hseated, by rw [hframe]; rfl, ⟨?_, fun h => hplayers (.inr h)⟩, ?_, ?_, ?_, ?_, ?_, ?_,
    .running (.inl (by rw [hframe]; rfl))⟩
  · obtain ⟨p, hp⟩ := List.exists_mem_of_length_pos
      (Nat.pos_of_ne_zero fun h => hplayers (.inl h))
    exact ⟨p, AList.mem_keys.mpr hp⟩
  · simp [hfound, hdiscoveries]
  · rw [hfound, hdiscoveries]; rfl
  all_goals simp [hdiscoveries]

/-- What a step may change without touching the invariant: times, a hunter's entry, and a phase
that keeps the round's standing. -/
theorem frame (h : RoundInvariant round s) (hassignments : s'.assignments = s.assignments)
    (hslots : s'.hiderBySlot = s.hiderBySlot) (hid : s'.roundId = s.roundId)
    (hhunters : ∀ p, p ∈ s'.hunters ↔ p ∈ s.hunters) (hfound : s'.foundHiders = s.foundHiders)
    (hdiscoveries : s'.discoveries = s.discoveries) (hstanding : Standing s') :
    RoundInvariant round s' where
  seated := by
    refine ⟨h.seated.players_nodup, h.seated.player_ne, h.seated.role, ?_, ?_, ?_, ?_⟩
    · rw [hassignments]; exact h.seated.mem_assignments
    · intro p; rw [hhunters]; exact h.seated.mem_hunters p
    · rw [hslots]; exact h.seated.hider
    · rw [hslots]; exact h.seated.hiders_len
  roundId := hid.trans h.roundId
  players := by rw [hslots]; exact ⟨h.players.1.imp fun p hp => (hhunters p).mpr hp, h.players.2⟩
  mem_found := by rw [hfound, hdiscoveries]; exact h.mem_found
  found_len := by rw [hfound, hdiscoveries]; exact h.found_len
  found_nodup := by rw [hdiscoveries]; exact h.found_nodup
  found_hider := by rw [hdiscoveries]; exact h.found_hider
  finder := by
    rw [hdiscoveries]
    intro d hd
    exact (hhunters _).mpr (h.finder d hd)
  sequence := by rw [hdiscoveries]; exact h.sequence
  standing := hstanding

theorem nextPhase (h : RoundInvariant round s) (hphase : s.phase ≠ .terminal) :
    RoundInvariant round s.nextPhase := by
  have hrunning : s.phase = .preparing ∨ s.phase = .hiding ∨ s.phase = .hunting := by
    cases h.standing with
    | running hr => exact hr
    | huntersWon ht => exact absurd ht hphase
    | hidersWon ht => exact absurd ht hphase
  unfold CasualRoundState.nextPhase
  rcases hrunning with hp | hp | hp <;> rw [hp]
  · exact h.frame rfl rfl rfl (fun _ => .rfl) rfl rfl (.running (.inr (.inl rfl)))
  · exact h.frame rfl rfl rfl (fun _ => .rfl) rfl rfl (.running (.inr (.inr rfl)))
  · exact h.frame rfl rfl rfl (fun _ => .rfl) rfl rfl (.hidersWon rfl rfl rfl)

theorem advanceFrom (now : Time) :
    ∀ (fuel : ℕ) {s : CasualRoundState}, RoundInvariant round s →
      RoundInvariant round (CasualRoundState.advanceFrom now fuel s).1
  | 0, s, h => h
  | fuel + 1, s, h => by
    unfold CasualRoundState.advanceFrom
    split
    · rename_i hcond
      exact RoundInvariant.advanceFrom now fuel (h.nextPhase hcond.1)
    · exact h

theorem recordResult (h : RoundInvariant round s) {playerId : String} {hunter : CasualHunterState}
    {result : HunterFireResult} (hp : playerId ∈ s.hunters) :
    RoundInvariant round (s.recordResult playerId hunter result) := by
  refine h.frame rfl rfl rfl (fun p => ?_) rfl rfl ?_
  · change p ∈ s.hunters.insert playerId _ ↔ p ∈ s.hunters
    rw [AList.mem_insert, or_iff_right_iff_imp]
    rintro rfl; exact hp
  · cases h.standing with
    | running hr => exact .running hr
    | huntersWon ht hside hreason hfound => exact .huntersWon ht hside hreason hfound
    | hidersWon ht hside hreason => exact .hidersWon ht hside hreason

/-- A discovery adds a hider that was not found before; the last one completes the round. -/
theorem discovered (h : RoundInvariant round s) {d : RoundDiscoverySnapshot}
    (hhider : d.hiderPlayerId ∈ hiderIds round.roleAssignments)
    (hnew : d.hiderPlayerId ∉ s.foundHiders) (hhunter : d.hunterPlayerId ∈ s.hunters)
    (hsequence : d.sequence = s.discoveries.length + 1) (hphase : s.phase = .hunting) :
    RoundInvariant round (s.discovered d) ∧ d.hunterPlayerId ∈ (s.discovered d).hunters := by
  have hlen : GoMap.len (s.foundHiders.insert d.hiderPlayerId d) = (s.discoveries ++ [d]).length := by
    rw [GoMap.len_insert hnew, h.found_len, List.length_append, List.length_singleton]
  have hmem : ∀ p, p ∈ s.foundHiders.insert d.hiderPlayerId d ↔
      p ∈ (s.discoveries ++ [d]).map (·.hiderPlayerId) := by
    intro p
    rw [AList.mem_insert, h.mem_found, List.map_append, List.mem_append, List.map_singleton,
      List.mem_singleton, or_comm]
  have hnodup : ((s.discoveries ++ [d]).map (·.hiderPlayerId)).Nodup := by
    rw [List.map_append, List.nodup_append]
    refine ⟨h.found_nodup, by simp, ?_⟩
    rintro p hp q hq rfl
    rw [List.map_singleton, List.mem_singleton] at hq
    exact hnew ((h.mem_found _).mpr (hq ▸ hp))
  have hhiders : ∀ e ∈ s.discoveries ++ [d], e.hiderPlayerId ∈ hiderIds round.roleAssignments := by
    intro e he
    rcases List.mem_append.mp he with he | he
    · exact h.found_hider e he
    · rw [List.mem_singleton.mp he]; exact hhider
  have hfinders : ∀ e ∈ s.discoveries ++ [d], e.hunterPlayerId ∈ s.hunters := by
    intro e he
    rcases List.mem_append.mp he with he | he
    · exact h.finder e he
    · rw [List.mem_singleton.mp he]; exact hhunter
  have hseq : (s.discoveries ++ [d]).map (·.sequence) =
      (List.range' 1 (s.discoveries ++ [d]).length).map Nat.cast := by
    rw [List.map_append, h.sequence, List.length_append, List.length_singleton,
      List.range'_concat, List.map_append, List.map_singleton, List.map_singleton, hsequence]
    simp [Int.add_comm]
  unfold CasualRoundState.discovered
  dsimp only
  split
  · rename_i hall
    refine ⟨⟨⟨h.seated.players_nodup, h.seated.player_ne, h.seated.role, h.seated.mem_assignments,
      h.seated.mem_hunters, h.seated.hider, h.seated.hiders_len⟩, h.roundId, h.players, hmem, hlen,
      hnodup, hhiders, hfinders, hseq, .huntersWon rfl rfl rfl (hlen.symm.trans hall)⟩, hhunter⟩
  · exact ⟨⟨⟨h.seated.players_nodup, h.seated.player_ne, h.seated.role, h.seated.mem_assignments,
      h.seated.mem_hunters, h.seated.hider, h.seated.hiders_len⟩, h.roundId, h.players, hmem, hlen,
      hnodup, hhiders, hfinders, hseq, .running (.inr (.inr hphase))⟩, hhunter⟩

theorem shoot (h : RoundInvariant round s) {playerId : String} {hunter : CasualHunterState}
    {result : HunterFireResult} {now : Time} (hp : playerId ∈ s.hunters)
    (hphase : s.phase = .hunting) : RoundInvariant round (s.shoot playerId hunter result now).1 := by
  unfold CasualRoundState.shoot
  dsimp only
  cases hd : s.discovers playerId result.aimSlot now with
  | none => exact h.recordResult hp
  | some d =>
    unfold CasualRoundState.discovers at hd
    cases hslot : s.hiderBySlot.lookup result.aimSlot with
    | none => rw [hslot] at hd; cases hd
    | some hiderPlayerId =>
      rw [hslot] at hd
      dsimp only at hd
      split at hd
      · rename_i hnew
        cases hd
        obtain ⟨hinv, hhunter⟩ := h.discovered (d := ⟨s.roundId, playerId, hiderPlayerId, _,
          result.aimSlot, now⟩) (h.seated.hider _ _ hslot) hnew.2 hp rfl hphase
        exact hinv.recordResult hhunter
      · cases hd

theorem handleFire (h : RoundInvariant round s) (playerId : String) (command : HunterFireCommand)
    (now : Time) : RoundInvariant round (s.handleFire playerId command now).1 := by
  unfold CasualRoundState.handleFire
  dsimp only
  cases hhunter : s.hunters.lookup playerId with
  | none => exact h
  | some hunter =>
    have hp : playerId ∈ s.hunters := AList.lookup_isSome.mp (by rw [hhunter]; rfl)
    dsimp only
    cases hunter.commands.lookup command.commandId with
    | some previous => exact h
    | none =>
      dsimp only
      split
      · exact h
      · cases hrefusal : s.fireRefusal hunter command now with
        | some reason => exact h.recordResult hp
        | none =>
          refine h.shoot hp ?_
          by_contra hphase
          unfold CasualRoundState.fireRefusal at hrefusal
          rw [if_pos hphase] at hrefusal
          split at hrefusal <;> cases hrefusal

/-- Every call keeps the invariant. -/
theorem step {call : RoundCall} (h : RoundInvariant round s) (hl : RoundStep s call s') :
    RoundInvariant round s' := by
  cases hl
  cases call with
  | advance now => exact h.advanceFrom now _
  | handleFire playerId command now => exact h.handleFire playerId command now

/-- **The invariant of a run.** -/
theorem run {s₀ : CasualRoundState} {ts : List (Transition CasualRoundState RoundCall)}
    (hnew : newCasualRoundState round = .ok s₀) (h : Run RoundStep s₀ ts s) :
    RoundInvariant round s :=
  (h.invariant' (fun _ _ _ hm hl => hm.step hl) (init hnew)).1

/-- When as many hiders are found as there are, every hider is found. -/
theorem all_found (h : RoundInvariant round s) (hlen : s.discoveries.length = s.hiderBySlot.len)
    {p : String} (hp : p ∈ hiderIds round.roleAssignments) :
    p ∈ s.discoveries.map (·.hiderPlayerId) := by
  have hsubset : s.discoveries.map (·.hiderPlayerId) ⊆ hiderIds round.roleAssignments := by
    intro q hq
    obtain ⟨d, hd, rfl⟩ := List.mem_map.mp hq
    exact h.found_hider d hd
  have hperm := (h.found_nodup.subperm hsubset).perm_of_length_le (by
    rw [List.length_map, hlen, h.seated.hiders_len])
  exact hperm.mem_iff.mpr hp

end RoundInvariant

end HiveChameleon.Nakama
