import HiveChameleon.Nakama.Recording

/-!
# Nakama.RoundGuarantees — what players and clients can rely on in a Casual round

Which discoveries a shot can make, who has won when, what can no longer change once the round has
ended, and what `Apply` publishes.  `handleFire_cases` says once what a command does to a round.
-/

namespace HiveChameleon.Nakama

open Lib

/-! ### `Apply` -/

/-- A `roundSnapshot` with the fields that `Apply` writes. -/
structure PublishedRound extends RoundSnapshot where
  status : Phase
  phaseDeadline : Option Time
  hidersTotal : ℤ
  hidersRemaining : ℤ
  discoveredHiderPlayerIds : List String
  winningSide : WinningSide
  completionReason : CompletionReason
deriving DecidableEq, Repr

/-- `casualRoundState.Apply` -/
def CasualRoundState.apply (s : CasualRoundState) (round : PublishedRound) : PublishedRound :=
  { round with
    status := s.phase
    targetSlotCount := s.targetSlotCount
    hidersTotal := s.hiderBySlot.len
    hidersRemaining := (s.hiderBySlot.len : ℤ) - s.foundHiders.len
    winningSide := s.winningSide
    completionReason := s.completionReason
    discoveredHiderPlayerIds := s.discoveries.map (·.hiderPlayerId)
    phaseDeadline := if s.phase = .terminal then none else some s.phaseDeadline }

/-! ### What a command does -/

section Commands

variable {s : CasualRoundState} {playerId : String} {aimSlot : ℤ} {now : Time}

/-- A shot discovers the hider of its slot when nobody found that hider before. -/
theorem discovers_eq_some {d : RoundDiscoverySnapshot} (h : s.discovers playerId aimSlot now = some d) :
    s.hiderBySlot.lookup aimSlot = some d.hiderPlayerId ∧ d.hiderPlayerId ∉ s.foundHiders ∧
      d.hunterPlayerId = playerId ∧ d.aimSlot = aimSlot ∧ d.sequence = s.discoveries.length + 1 := by
  unfold CasualRoundState.discovers at h
  cases hslot : s.hiderBySlot.lookup aimSlot with
  | none => rw [hslot] at h; cases h
  | some hiderPlayerId =>
    rw [hslot] at h
    dsimp only at h
    split at h
    · rename_i hnew
      cases h
      exact ⟨rfl, hnew.2, rfl, rfl, rfl⟩
    · cases h

/-- **What `HandleFire` does to a round**: nothing, a new entry for the hunter who sent the command,
or during the hunt a shot, with or without a discovery. -/
theorem handleFire_cases (s : CasualRoundState) (playerId : String) (command : HunterFireCommand)
    (now : Time) : (s.handleFire playerId command now).1 = s ∨
      ∃ hunter, s.hunters.lookup playerId = some hunter ∧
        ((∃ result, (s.handleFire playerId command now).1 = s.recordResult playerId hunter result) ∨
          s.phase = .hunting ∧ ∃ shooter result,
            (s.handleFire playerId command now).1 = s.recordResult playerId shooter result ∨
            ∃ d, s.discovers playerId command.aimSlot now = some d ∧
              (s.handleFire playerId command now).1 =
                (s.discovered d).recordResult playerId shooter result) := by
  unfold CasualRoundState.handleFire
  dsimp only
  cases hhunter : s.hunters.lookup playerId with
  | none => exact .inl rfl
  | some hunter =>
    dsimp only
    cases hunter.commands.lookup command.commandId with
    | some previous => exact .inl rfl
    | none =>
      dsimp only
      split
      · exact .inl rfl
      · right
        refine ⟨hunter, rfl, ?_⟩
        cases hrefusal : s.fireRefusal hunter command now with
        | some reason => exact .inl ⟨_, rfl⟩
        | none =>
          have hphase : s.phase = .hunting := by
            by_contra hphase
            unfold CasualRoundState.fireRefusal at hrefusal
            rw [if_pos hphase] at hrefusal
            split at hrefusal <;> cases hrefusal
          refine .inr ⟨hphase, ?_⟩
          dsimp only [CasualRoundState.shoot]
          cases hd : s.discovers playerId command.aimSlot now with
          | none => exact ⟨_, _, .inl rfl⟩
          | some d => exact ⟨_, _, .inr ⟨d, rfl, rfl⟩⟩

end Commands

/-! ### Slots and winners -/

/-- Where the hiders sit, which of them are discovered, and that nobody has won before the end. -/
structure RoundSlots (round : RoundSnapshot) (s : CasualRoundState) : Prop where
  seat : ∀ slot p, s.hiderBySlot.lookup slot = some p →
    ∃ a ∈ round.roleAssignments, a.role = .hider ∧ a.playerId = p ∧ a.hidingSlot = slot
  occupied : ∀ d ∈ s.discoveries, s.hiderBySlot.lookup d.aimSlot = some d.hiderPlayerId
  undiscovered : s.winningSide ≠ .hunters → s.discoveries.length < s.hiderBySlot.len
  unended : s.phase ≠ .terminal → s.winningSide = .other "" ∧ s.completionReason = .unset

theorem seatAssignment_seat {round : RoundSnapshot} {a : RoundRoleAssignment}
    {s s' : CasualRoundState} (hok : seatAssignment round s a = .ok s') {slot : ℤ} {p : String}
    (hp : s'.hiderBySlot.lookup slot = some p) :
    s.hiderBySlot.lookup slot = some p ∨ a.role = .hider ∧ a.playerId = p ∧ a.hidingSlot = slot := by
  obtain ⟨-, -, ⟨-, rfl⟩ | ⟨hrole, -, -, rfl⟩⟩ := seatAssignment_eq_ok.mp hok
  · exact .inl hp
  · rcases GoMap.lookup_insert_cases hp with ⟨hslot, hplayer⟩ | hp
    · exact .inr ⟨hrole, hplayer.symm, hslot.symm⟩
    · exact .inl hp

theorem seatAssignments_seat {round : RoundSnapshot} {slot : ℤ} {p : String} :
    ∀ {assignments : List RoundRoleAssignment} {s s' : CasualRoundState},
      seatAssignments round s assignments = .ok s' → s'.hiderBySlot.lookup slot = some p →
      s.hiderBySlot.lookup slot = some p ∨
        ∃ a ∈ assignments, a.role = .hider ∧ a.playerId = p ∧ a.hidingSlot = slot
  | [], s, s', hok, hp => by cases hok; exact .inl hp
  | a :: assignments, s, s', hok, hp => by
    obtain ⟨mid, hmid, hok⟩ := seatAssignments_cons.mp hok
    rcases seatAssignments_seat hok hp with hp | ⟨b, hb, hrest⟩
    · rcases seatAssignment_seat hmid hp with hp | hrest
      · exact .inl hp
      · exact .inr ⟨a, List.mem_cons_self, hrest⟩
    · exact .inr ⟨b, List.mem_cons_of_mem a hb, hrest⟩

namespace RoundSlots

variable {round : RoundSnapshot} {s s' : CasualRoundState}

theorem init (hok : newCasualRoundState round = .ok s) : RoundSlots round s := by
  have hinv : RoundInvariant round s := RoundInvariant.init hok
  unfold newCasualRoundState at hok
  split at hok
  · cases hok
  split at hok
  · cases hok
  split at hok
  · cases hok
  rename_i state hseat
  split at hok
  · cases hok
  cases hok
  have hframe := seatAssignments_frame hseat
  have hdiscoveries : s.discoveries = [] := by rw [hframe]; rfl
  refine ⟨fun slot p hp => ?_, ?_, fun _ => ?_, fun _ => ?_⟩
  · rcases seatAssignments_seat hseat hp with hp | hp
    · have hempty : (unseatedRound round).hiderBySlot.lookup slot = none := rfl
      rw [hempty] at hp
      cases hp
    · exact hp
  · rw [hdiscoveries]; exact fun d hd => absurd hd List.not_mem_nil
  · rw [hdiscoveries]; exact Nat.pos_of_ne_zero hinv.players.2
  · rw [hframe]; exact ⟨rfl, rfl⟩

theorem recordResult (h : RoundSlots round s) {playerId : String} {hunter : CasualHunterState}
    {result : HunterFireResult} : RoundSlots round (s.recordResult playerId hunter result) :=
  ⟨h.seat, h.occupied, h.undiscovered, h.unended⟩

theorem nextPhase (h : RoundSlots round s) (hinv : RoundInvariant round s)
    (hphase : s.phase ≠ .terminal) : RoundSlots round s.nextPhase := by
  obtain ⟨hside, hreason⟩ := h.unended hphase
  have hopen : s.discoveries.length < s.hiderBySlot.len := h.undiscovered (by rw [hside]; decide)
  have hrunning : s.phase = .preparing ∨ s.phase = .hiding ∨ s.phase = .hunting := by
    cases hinv.standing with
    | running hr => exact hr
    | huntersWon ht => exact absurd ht hphase
    | hidersWon ht => exact absurd ht hphase
  unfold CasualRoundState.nextPhase
  rcases hrunning with hp | hp | hp <;> rw [hp]
  · exact ⟨h.seat, h.occupied, fun _ => hopen, fun _ => ⟨hside, hreason⟩⟩
  · exact ⟨h.seat, h.occupied, fun _ => hopen, fun _ => ⟨hside, hreason⟩⟩
  · exact ⟨h.seat, h.occupied, fun _ => hopen, fun hne => absurd rfl hne⟩

theorem discovered (h : RoundSlots round s) (hinv : RoundInvariant round s)
    {d : RoundDiscoverySnapshot} (hslot : s.hiderBySlot.lookup d.aimSlot = some d.hiderPlayerId)
    (hnew : d.hiderPlayerId ∉ s.foundHiders) (hphase : s.phase = .hunting) :
    RoundSlots round (s.discovered d) := by
  have hne : s.phase ≠ .terminal := by rw [hphase]; decide
  obtain ⟨hside, hreason⟩ := h.unended hne
  have hopen : s.discoveries.length < s.hiderBySlot.len := h.undiscovered (by rw [hside]; decide)
  have hlen : GoMap.len (s.foundHiders.insert d.hiderPlayerId d) = s.discoveries.length + 1 := by
    rw [GoMap.len_insert hnew, hinv.found_len]
  have hoccupied : ∀ e ∈ s.discoveries ++ [d],
      s.hiderBySlot.lookup e.aimSlot = some e.hiderPlayerId := by
    intro e he
    rcases List.mem_append.mp he with he | he
    · exact h.occupied e he
    · rw [List.mem_singleton.mp he]; exact hslot
  unfold CasualRoundState.discovered
  dsimp only
  by_cases hall : GoMap.len (s.foundHiders.insert d.hiderPlayerId d) = s.hiderBySlot.len
  · rw [if_pos hall]
    exact ⟨h.seat, hoccupied, fun hwon => absurd rfl hwon, fun hend => absurd rfl hend⟩
  · rw [if_neg hall]
    refine ⟨h.seat, hoccupied, fun _ => ?_, fun _ => ⟨hside, hreason⟩⟩
    show (s.discoveries ++ [d]).length < s.hiderBySlot.len
    rw [List.length_append, List.length_singleton]
    omega

theorem advanceFrom (now : Time) :
    ∀ (fuel : ℕ) {s : CasualRoundState}, RoundSlots round s → RoundInvariant round s →
      RoundSlots round (CasualRoundState.advanceFrom now fuel s).1
  | 0, s, h, _ => h
  | fuel + 1, s, h, hinv => by
    unfold CasualRoundState.advanceFrom
    split
    · rename_i hcond
      exact RoundSlots.advanceFrom now fuel (h.nextPhase hinv hcond.1) (hinv.nextPhase hcond.1)
    · exact h

theorem handleFire (h : RoundSlots round s) (hinv : RoundInvariant round s) (playerId : String)
    (command : HunterFireCommand) (now : Time) :
    RoundSlots round (s.handleFire playerId command now).1 := by
  rcases handleFire_cases s playerId command now with
    hsame | ⟨hunter, -, ⟨result, hrecord⟩ | ⟨hphase, shooter, result, hshot | ⟨d, hd, hhit⟩⟩⟩
  · rw [hsame]; exact h
  · rw [hrecord]; exact h.recordResult
  · rw [hshot]; exact h.recordResult
  · obtain ⟨hslot, hnew, -, haim, -⟩ := discovers_eq_some hd
    rw [hhit]
    exact (h.discovered hinv (by rw [haim]; exact hslot) hnew hphase).recordResult

theorem step {call : RoundCall} (h : RoundSlots round s) (hinv : RoundInvariant round s)
    (hl : RoundStep s call s') : RoundSlots round s' := by
  cases hl
  cases call with
  | advance now => exact h.advanceFrom now _ hinv
  | handleFire playerId command now => exact h.handleFire hinv playerId command now

theorem run {s₀ : CasualRoundState} {ts : List (Transition CasualRoundState RoundCall)}
    (hnew : newCasualRoundState round = .ok s₀) (h : Run RoundStep s₀ ts s) : RoundSlots round s :=
  (h.invariant' (I := fun s => RoundSlots round s ∧ RoundInvariant round s)
    (fun _ _ _ hm hl => ⟨hm.1.step hm.2 hl, hm.2.step hl⟩)
    ⟨init hnew, RoundInvariant.init hnew⟩).1.1

end RoundSlots

/-! ### What an ended round keeps -/

/-- The order of the phases. -/
def Phase.rank : Phase → ℕ
  | .preparing => 0
  | .hiding => 1
  | .hunting => 2
  | .terminal => 3
  | .other _ => 0

/-- The shells a hunter has left. -/
def shellsRemaining (s : CasualRoundState) (playerId : String) : Option ℤ :=
  (s.hunters.lookup playerId).map (·.shellsRemaining)

/-- From `s` to a later state: the phase does not go back, and an ended round keeps its result and
every hunter's shells. -/
structure RoundProgress (s s' : CasualRoundState) : Prop where
  phase : s.phase.rank ≤ s'.phase.rank
  ended : s.phase = .terminal → s'.phase = .terminal ∧ s'.winningSide = s.winningSide ∧
    s'.completionReason = s.completionReason ∧ s'.discoveries = s.discoveries ∧
    ∀ p, shellsRemaining s' p = shellsRemaining s p

namespace RoundProgress

variable {s s' s'' : CasualRoundState}

theorem refl (s : CasualRoundState) : RoundProgress s s :=
  ⟨le_refl _, fun h => ⟨h, rfl, rfl, rfl, fun _ => rfl⟩⟩

theorem trans (h : RoundProgress s s') (h' : RoundProgress s' s'') : RoundProgress s s'' where
  phase := le_trans h.phase h'.phase
  ended hterm := by
    obtain ⟨hterm', hside, hreason, hdiscoveries, hshells⟩ := h.ended hterm
    obtain ⟨hterm'', hside', hreason', hdiscoveries', hshells'⟩ := h'.ended hterm'
    exact ⟨hterm'', hside'.trans hside, hreason'.trans hreason, hdiscoveries'.trans hdiscoveries,
      fun p => (hshells' p).trans (hshells p)⟩

theorem of_running (hphase : s.phase ≠ .terminal) (hrank : s.phase.rank ≤ s'.phase.rank) :
    RoundProgress s s' :=
  ⟨hrank, fun hterm => absurd hterm hphase⟩

theorem advanceFrom (now : Time) :
    ∀ (fuel : ℕ) (s : CasualRoundState), RoundProgress s (s.advanceFrom now fuel).1
  | 0, s => .refl s
  | fuel + 1, s => by
    unfold CasualRoundState.advanceFrom
    split
    · rename_i hcond
      have hrank : s.phase.rank ≤ s.nextPhase.phase.rank := by
        unfold CasualRoundState.nextPhase
        cases hphase : s.phase <;> simp [Phase.rank, CasualRoundState.complete]
      exact (of_running hcond.1 hrank).trans (advanceFrom now fuel s.nextPhase)
    · exact .refl s

theorem recordResult {playerId : String} {hunter : CasualHunterState} {result : HunterFireResult}
    (hhunter : s.hunters.lookup playerId = some hunter) :
    RoundProgress s (s.recordResult playerId hunter result) := by
  refine ⟨le_refl _, fun hterm => ⟨hterm, rfl, rfl, rfl, fun p => ?_⟩⟩
  unfold shellsRemaining CasualRoundState.recordResult
  by_cases hp : p = playerId
  · subst hp
    rw [AList.lookup_insert, hhunter]
    rfl
  · rw [AList.lookup_insert_ne hp]

theorem discovered_rank (d : RoundDiscoverySnapshot) (hphase : s.phase = .hunting) :
    s.phase.rank ≤ (s.discovered d).phase.rank := by
  unfold CasualRoundState.discovered
  dsimp only
  split
  · show s.phase.rank ≤ Phase.terminal.rank
    rw [hphase]; decide
  · exact le_refl _

theorem handleFire (s : CasualRoundState) (playerId : String) (command : HunterFireCommand)
    (now : Time) : RoundProgress s (s.handleFire playerId command now).1 := by
  rcases handleFire_cases s playerId command now with
    hsame | ⟨hunter, hhunter, ⟨result, hrecord⟩ | ⟨hphase, shooter, result, hshot | ⟨d, -, hhit⟩⟩⟩
  · rw [hsame]; exact .refl s
  · rw [hrecord]; exact recordResult hhunter
  · have hne : s.phase ≠ .terminal := by rw [hphase]; decide
    rw [hshot]
    exact of_running hne (le_refl _)
  · have hne : s.phase ≠ .terminal := by rw [hphase]; decide
    rw [hhit]
    exact of_running hne (discovered_rank d hphase)

theorem run {ts : List (Transition CasualRoundState RoundCall)} (h : Run RoundStep s ts s') :
    RoundProgress s s' := by
  refine h.related (I := fun _ => True) refl (fun _ _ _ => trans) (fun m call m' _ hl => ?_) trivial
  refine ⟨trivial, ?_⟩
  cases hl
  cases call with
  | advance now => exact advanceFrom now _ m
  | handleFire playerId command now => exact handleFire m playerId command now

end RoundProgress

/-! ### The guarantees -/

/-- **What holds of a round in play**, seen from its assignments. -/
structure RoundGuarantees (round : RoundSnapshot) (s : CasualRoundState) : Prop where
  sequence : s.discoveries.map (·.sequence) = (List.range' 1 s.discoveries.length).map Nat.cast
  hider : ∀ d ∈ s.discoveries, ∃ a ∈ round.roleAssignments,
    a.role = .hider ∧ a.playerId = d.hiderPlayerId ∧ a.hidingSlot = d.aimSlot
  hunter : ∀ d ∈ s.discoveries, ∃ a ∈ round.roleAssignments,
    a.role = .hunter ∧ a.playerId = d.hunterPlayerId
  distinct : (s.discoveries.map (·.hiderPlayerId)).Nodup
  found : ∀ p, p ∈ s.foundHiders ↔ ∃ d ∈ s.discoveries, d.hiderPlayerId = p
  phase : ∀ text, s.phase ≠ .other text
  reason : s.completionReason ≠ .invalidPhase
  huntersWon : s.winningSide = .hunters ↔ ∀ p ∈ hiderIds round.roleAssignments, p ∈ s.foundHiders
  hidersWon : s.winningSide = .hiders → ∃ p ∈ hiderIds round.roleAssignments, p ∉ s.foundHiders
  published : ∀ snapshot : PublishedRound,
    (s.apply snapshot).hidersTotal = (hiderIds round.roleAssignments).length ∧
      (s.apply snapshot).hidersRemaining =
        ((hiderIds round.roleAssignments).filter fun p => p ∉ s.foundHiders).length ∧
      (s.apply snapshot).discoveredHiderPlayerIds.length =
        ((hiderIds round.roleAssignments).filter fun p => p ∈ s.foundHiders).length

namespace RoundInvariant

variable {round : RoundSnapshot} {s : CasualRoundState}

theorem hiderIds_nodup (h : RoundInvariant round s) : (hiderIds round.roleAssignments).Nodup :=
  h.seated.players_nodup.sublist (List.filter_sublist.map _)

/-- Among the hiders, the found ones are as many as the discoveries. -/
theorem found_count (h : RoundInvariant round s) :
    ((hiderIds round.roleAssignments).filter fun p => p ∈ s.foundHiders).length =
      s.discoveries.length := by
  have hperm : ((hiderIds round.roleAssignments).filter fun p => p ∈ s.foundHiders).Perm
      (s.discoveries.map (·.hiderPlayerId)) := by
    rw [List.perm_ext_iff_of_nodup (h.hiderIds_nodup.filter _) h.found_nodup]
    intro p
    rw [List.mem_filter, decide_eq_true_eq, h.mem_found]
    constructor
    · exact fun hp => hp.2
    · intro hp
      obtain ⟨d, hd, rfl⟩ := List.mem_map.mp hp
      exact ⟨h.found_hider d hd, hp⟩
  rw [hperm.length_eq, List.length_map]

theorem unfound_count (h : RoundInvariant round s) :
    ((hiderIds round.roleAssignments).filter fun p => p ∉ s.foundHiders).length +
      s.discoveries.length = s.hiderBySlot.len := by
  have hsplit := List.length_eq_length_filter_add (l := hiderIds round.roleAssignments)
    fun p => decide (p ∈ s.foundHiders)
  rw [h.found_count] at hsplit
  rw [h.seated.hiders_len, hsplit, Nat.add_comm]
  simp only [decide_not]

/-- All hiders are found when the counts agree. -/
theorem all_found_iff (h : RoundInvariant round s) :
    (∀ p ∈ hiderIds round.roleAssignments, p ∈ s.foundHiders) ↔
      s.discoveries.length = s.hiderBySlot.len := by
  have hcount := h.unfound_count
  constructor
  · intro hall
    have hnone : (hiderIds round.roleAssignments).filter (fun p => p ∉ s.foundHiders) = [] := by
      rw [List.filter_eq_nil_iff]
      intro p hp hnot
      exact absurd (hall p hp) (of_decide_eq_true hnot)
    rw [hnone, List.length_nil] at hcount
    omega
  · intro hlen p hp
    exact (h.mem_found p).mpr (h.all_found hlen hp)

theorem guarantees (h : RoundInvariant round s) (hslots : RoundSlots round s) :
    RoundGuarantees round s := by
  have hends : (∀ text, s.phase ≠ .other text) ∧ s.completionReason ≠ .invalidPhase ∧
      (s.winningSide = .hunters ↔ s.discoveries.length = s.hiderBySlot.len) := by
    cases h.standing with
    | running hr =>
      have hne : s.phase ≠ .terminal := by rcases hr with hp | hp | hp <;> rw [hp] <;> decide
      obtain ⟨hside, hreason⟩ := hslots.unended hne
      have hopen := hslots.undiscovered (by rw [hside]; decide)
      refine ⟨fun text => ?_, by rw [hreason]; decide, ?_⟩
      · rcases hr with hp | hp | hp <;> rw [hp] <;> exact nofun
      · rw [hside]
        exact ⟨fun hwon => absurd hwon (by decide), fun hlen => absurd hlen (by omega)⟩
    | huntersWon ht hside hreason hfound =>
      exact ⟨fun text => by rw [ht]; exact nofun, by rw [hreason]; decide, fun _ => hfound,
        fun _ => hside⟩
    | hidersWon ht hside hreason =>
      have hopen := hslots.undiscovered (by rw [hside]; decide)
      refine ⟨fun text => by rw [ht]; exact nofun, by rw [hreason]; decide, ?_⟩
      rw [hside]
      exact ⟨fun hwon => absurd hwon (by decide), fun hlen => absurd hlen (by omega)⟩
  obtain ⟨hphase, hreason, hwinner⟩ := hends
  refine ⟨h.sequence, fun d hd => hslots.seat _ _ (hslots.occupied d hd),
    fun d hd => (h.seated.mem_hunters _).mp (h.finder d hd), h.found_nodup, fun p => ?_, hphase,
    hreason, hwinner.trans h.all_found_iff.symm, fun hside => ?_, fun snapshot => ⟨?_, ?_, ?_⟩⟩
  · rw [h.mem_found, List.mem_map]
  · have hopen := hslots.undiscovered (by rw [hside]; decide)
    by_contra hnone
    have hall : ∀ p ∈ hiderIds round.roleAssignments, p ∈ s.foundHiders := fun p hp => by
      by_contra hnot
      exact hnone ⟨p, hp, hnot⟩
    have hlen := h.all_found_iff.mp hall
    omega
  · show (s.hiderBySlot.len : ℤ) = _
    rw [h.seated.hiders_len]
  · show (s.hiderBySlot.len : ℤ) - s.foundHiders.len = _
    have hcount := h.unfound_count
    rw [h.found_len]
    omega
  · show (s.discoveries.map (·.hiderPlayerId)).length = _
    rw [List.length_map, h.found_count]

end RoundInvariant

/-- **A Casual round keeps its rules.**  From every accepted roster and through any calls: every
state meets the guarantees, and between any two states of a run the phase does not go back and an
ended round keeps its result and shells. -/
theorem casual_round_keeps_rules {round : RoundSnapshot} {s₀ m s : CasualRoundState}
    {us vs : List (Transition CasualRoundState RoundCall)}
    (hnew : newCasualRoundState round = .ok s₀) (h : Run RoundStep s₀ us m)
    (h' : Run RoundStep m vs s) :
    RoundGuarantees round m ∧ RoundGuarantees round s ∧ RoundProgress m s :=
  ⟨(RoundInvariant.run hnew h).guarantees (RoundSlots.run hnew h),
    (RoundInvariant.run hnew (h.append h')).guarantees (RoundSlots.run hnew (h.append h')),
    .run h'⟩

/-- In the round of one hunter and two hiders: after the first hit one hider remains, and the
timeout leaves that discovery as it is. -/
theorem casual_round_keeps_rules_timeout :
    ∃ m s, playRound threePlayerRound firstHit = .ok m ∧ m.discoveries.length = 1 ∧
      ((m.advance 5000000000).1 = s) ∧ s.phase = .terminal ∧
      RoundGuarantees threePlayerRound m ∧ RoundGuarantees threePlayerRound s ∧ RoundProgress m s := by
  have hfacts : ∃ m, playRound threePlayerRound firstHit = .ok m ∧ m.discoveries.length = 1 ∧
      (m.advance 5000000000).1.phase = .terminal := ⟨_, rfl, by decide, by decide⟩
  obtain ⟨m, hplay, hone, hterm⟩ := hfacts
  obtain ⟨s₀, us, hnew, hrun⟩ := playRound_run hplay
  have htimeout : RoundStep m (.advance 5000000000) (m.advance 5000000000).1 := rfl
  exact ⟨m, _, hplay, hone, rfl, hterm, casual_round_keeps_rules hnew hrun (.single htimeout)⟩

end HiveChameleon.Nakama
