import HiveChameleon.Nakama.MatchLoop
import HiveChameleon.Nakama.RoundTicks

/-!
# Nakama.HiddenSlots — hidden slots do not interfere

Two rounds that differ in the slots of some hiders, played through the same calls.  As long as every shot
hits the same hider in both or nobody in both, all that the match handler computes and sends is the same,
except what it sends to these hiders themselves.
-/

namespace HiveChameleon.Nakama

/-! ### A round with other slots -/

namespace CasualRoundState

/-- The round with other assignments and other hiders in the slots. -/
def reslot (s : CasualRoundState) (assignments : GoMap String RoundRoleAssignment)
    (hiderBySlot : GoMap ℤ String) : CasualRoundState :=
  { s with assignments := assignments, hiderBySlot := hiderBySlot }

section

variable {s : CasualRoundState} {assignments : GoMap String RoundRoleAssignment}
  {hiderBySlot : GoMap ℤ String} {playerId : String} {command : HunterFireCommand} {now : Time}

theorem nextPhase_reslot :
    (s.reslot assignments hiderBySlot).nextPhase = s.nextPhase.reslot assignments hiderBySlot := by
  have hphase : (s.reslot assignments hiderBySlot).phase = s.phase := rfl
  rw [nextPhase, nextPhase, hphase]
  cases s.phase <;> rfl

/-- `Advance` does not look at the slots. -/
theorem advance_reslot : ∀ (fuel : ℕ) (s : CasualRoundState), s.phasesLeft ≤ fuel →
    (s.reslot assignments hiderBySlot).advance now =
      ((s.advance now).1.reslot assignments hiderBySlot, (s.advance now).2)
  | 0, s, hfuel => by
    have hterm : s.phase = .terminal := phase_eq_terminal_of_phasesLeft (by omega)
    have hterm' : (s.reslot assignments hiderBySlot).phase = .terminal := hterm
    rw [advance_of_not_due fun h => h.1 hterm, advance_of_not_due fun h => h.1 hterm']
  | fuel + 1, s, hfuel => by
    by_cases hdue : s.phase ≠ .terminal ∧ s.phaseDeadline ≤ now
    · have hdue' : (s.reslot assignments hiderBySlot).phase ≠ .terminal ∧
          (s.reslot assignments hiderBySlot).phaseDeadline ≤ now := hdue
      have hleft := phasesLeft_nextPhase hdue.1
      have hnext := advance_reslot fuel s.nextPhase (by omega)
      rw [advance_of_due hdue, advance_of_due hdue', nextPhase_reslot, hnext]
      rfl
    · have hdue' : ¬ ((s.reslot assignments hiderBySlot).phase ≠ .terminal ∧
          (s.reslot assignments hiderBySlot).phaseDeadline ≤ now) := hdue
      rw [advance_of_not_due hdue, advance_of_not_due hdue']

/-- The state with one more discovery, before its end is looked at. -/
def found (s : CasualRoundState) (d : RoundDiscoverySnapshot) : CasualRoundState :=
  { s with
    foundHiders := s.foundHiders.insert d.hiderPlayerId d, discoveries := s.discoveries ++ [d] }

theorem discovered_of_all {d : RoundDiscoverySnapshot}
    (h : (s.found d).foundHiders.len = s.hiderBySlot.len) :
    s.discovered d = (s.found d).complete .hunters .allHidersFound :=
  if_pos h

theorem discovered_of_not_all {d : RoundDiscoverySnapshot}
    (h : ¬ (s.found d).foundHiders.len = s.hiderBySlot.len) : s.discovered d = s.found d :=
  if_neg h

theorem discovered_reslot (hlen : hiderBySlot.len = s.hiderBySlot.len) (d : RoundDiscoverySnapshot) :
    (s.reslot assignments hiderBySlot).discovered d =
      (s.discovered d).reslot assignments hiderBySlot := by
  by_cases hall : (s.found d).foundHiders.len = s.hiderBySlot.len
  · have hall' : ((s.reslot assignments hiderBySlot).found d).foundHiders.len =
        (s.reslot assignments hiderBySlot).hiderBySlot.len := hall.trans hlen.symm
    rw [discovered_of_all hall, discovered_of_all hall']
    rfl
  · have hall' : ¬ ((s.reslot assignments hiderBySlot).found d).foundHiders.len =
        (s.reslot assignments hiderBySlot).hiderBySlot.len := fun h => hall (h.trans hlen)
    rw [discovered_of_not_all hall, discovered_of_not_all hall']
    rfl

/-- What a discovery says, apart from whom it is about. -/
theorem discovers_eq {d : RoundDiscoverySnapshot} (h : s.discovers playerId command.aimSlot now = some d) :
    d = ⟨s.roundId, playerId, d.hiderPlayerId, s.discoveries.length + 1, command.aimSlot, now⟩ := by
  rw [discovers] at h
  cases hslot : s.hiderBySlot.lookup command.aimSlot with
  | none =>
    rw [hslot] at h
    cases h
  | some hiderPlayerId =>
    rw [hslot] at h
    dsimp only at h
    by_cases hnew : hiderPlayerId ≠ "" ∧ hiderPlayerId ∉ s.foundHiders
    · rw [if_pos hnew] at h
      obtain rfl := Option.some.inj h
      rfl
    · rw [if_neg hnew] at h
      cases h

/-- A shot that hits the same hider in both rounds, or nobody in both. -/
theorem shoot_reslot (hlen : hiderBySlot.len = s.hiderBySlot.len) {hunter : CasualHunterState}
    {result : HunterFireResult} (haim : result.aimSlot = command.aimSlot)
    (hresult : result.hit = false)
    (hhit : ((s.reslot assignments hiderBySlot).shoot playerId hunter result now).2.1.hit =
        (s.shoot playerId hunter result now).2.1.hit)
    (hhider : ((s.reslot assignments hiderBySlot).shoot playerId hunter result now).2.1.hiderPlayerId =
        (s.shoot playerId hunter result now).2.1.hiderPlayerId) :
    (s.reslot assignments hiderBySlot).shoot playerId hunter result now =
      ((s.shoot playerId hunter result now).1.reslot assignments hiderBySlot,
        (s.shoot playerId hunter result now).2) := by
  rw [shoot, shoot] at hhit hhider ⊢
  dsimp only at hhit hhider ⊢
  rw [haim] at hhit hhider ⊢
  cases hd : s.discovers playerId command.aimSlot now with
  | none =>
    cases hd' : (s.reslot assignments hiderBySlot).discovers playerId command.aimSlot now with
    | none => rfl
    | some d' =>
      rw [hd, hd'] at hhit
      exact absurd (hhit.trans hresult) (by simp)
  | some d =>
    cases hd' : (s.reslot assignments hiderBySlot).discovers playerId command.aimSlot now with
    | none =>
      rw [hd, hd'] at hhit
      exact absurd (hhit.symm.trans hresult) (by simp)
    | some d' =>
      rw [hd, hd'] at hhider
      have hsame : d' = d := by
        have hplayer : d'.hiderPlayerId = d.hiderPlayerId := hhider
        rw [discovers_eq hd, discovers_eq hd', hplayer]
        rfl
      rw [hsame]
      dsimp only
      rw [discovered_reslot hlen]
      rfl

theorem handleFire_reslot (hlen : hiderBySlot.len = s.hiderBySlot.len)
    (hhit : ((s.reslot assignments hiderBySlot).handleFire playerId command now).2.1.hit =
        (s.handleFire playerId command now).2.1.hit)
    (hhider : ((s.reslot assignments hiderBySlot).handleFire playerId command now).2.1.hiderPlayerId =
        (s.handleFire playerId command now).2.1.hiderPlayerId) :
    (s.reslot assignments hiderBySlot).handleFire playerId command now =
      ((s.handleFire playerId command now).1.reslot assignments hiderBySlot,
        (s.handleFire playerId command now).2) := by
  have hhunters : (s.reslot assignments hiderBySlot).hunters = s.hunters := rfl
  rw [handleFire, handleFire] at hhit hhider ⊢
  dsimp only at hhit hhider ⊢
  rw [hhunters] at hhit hhider ⊢
  cases hhunter : s.hunters.lookup playerId with
  | none => rfl
  | some hunter =>
    rw [hhunter] at hhit hhider
    dsimp only at hhit hhider ⊢
    cases hcommand : hunter.commands.lookup command.commandId with
    | some previous => rfl
    | none =>
      rw [hcommand] at hhit hhider
      dsimp only at hhit hhider ⊢
      by_cases hlimit : maximumProcessedCommands ≤ hunter.commands.len
      · rw [if_pos hlimit, if_pos hlimit]
        rfl
      rw [if_neg hlimit, if_neg hlimit] at hhit hhider ⊢
      have hrefuse : (s.reslot assignments hiderBySlot).fireRefusal hunter command now =
          s.fireRefusal hunter command now := rfl
      rw [hrefuse] at hhit hhider ⊢
      cases hrefusal : s.fireRefusal hunter command now with
      | some reason => rfl
      | none =>
        rw [hrefusal] at hhit hhider
        exact shoot_reslot hlen rfl rfl hhit hhider

end

end CasualRoundState

/-! ### Messages for others -/

/-- The messages that the presences of a player receive. -/
def seenBy (playerId : String) (sent : List Sent) : List Sent :=
  sent.filter fun message => message.recipients.all fun presences =>
    presences.any fun presence => presence.playerId = playerId

section

variable {m : MatchState} {playerId other : String} {message : RoundMessage} {sent sent' : List Sent}

theorem seenBy_append :
    seenBy playerId (sent ++ sent') = seenBy playerId sent ++ seenBy playerId sent' :=
  List.filter_append ..

theorem seenBy_flatMap_congr {α : Type} {items : List α} {send send' : α → List Sent}
    (h : ∀ item ∈ items, seenBy playerId (send item) = seenBy playerId (send' item)) :
    seenBy playerId (items.flatMap send) = seenBy playerId (items.flatMap send') := by
  induction items with
  | nil => rfl
  | cons item items ih =>
    have hrest := ih fun other hother => h other (List.mem_cons_of_mem _ hother)
    rw [List.flatMap_cons, List.flatMap_cons, seenBy_append, seenBy_append, hrest,
      h item (List.mem_cons_self ..)]

theorem seenBy_sendToPlayer_of_ne (h : playerId ≠ other) :
    seenBy playerId (m.sendToPlayer other message) = [] := by
  rw [MatchState.sendToPlayer]
  by_cases hnone : m.presencesForPlayer other = []
  · rw [if_pos hnone]
    rfl
  · rw [if_neg hnone, seenBy, List.filter_eq_nil_iff]
    intro x hx hseen
    rw [List.mem_singleton.mp hx] at hseen
    obtain ⟨presence, hpresence, hplayer⟩ := List.any_eq_true.mp hseen
    have howner := (List.mem_filter.mp hpresence).2
    rw [decide_eq_true_eq] at hplayer howner
    exact h (hplayer.symm.trans howner)

theorem seenBy_playerState_of_ne (h : playerId ≠ other) :
    seenBy playerId (m.broadcastRoundPlayerState other) = [] := by
  rw [MatchState.broadcastRoundPlayerState]
  cases m.casualRound.playerState other with
  | none => rfl
  | some playerState => exact seenBy_sendToPlayer_of_ne h

end

/-! ### Matches that differ in hidden slots -/

/-- The match with other slots and other role assignments. -/
def MatchState.reslot (m : MatchState) (assignments : GoMap String RoundRoleAssignment)
    (hiderBySlot : GoMap ℤ String) (roles : List RoundRoleAssignment) : MatchState :=
  { m with
    casualRound := m.casualRound.reslot assignments hiderBySlot
    round := { m.round with roleAssignments := roles } }

/-- The other slots are as many, and the same players are seated, who are not `hidden` as they were. -/
structure Hides (hidden : String → Prop) (m : MatchState)
    (assignments : GoMap String RoundRoleAssignment) (hiderBySlot : GoMap ℤ String)
    (roles : List RoundRoleAssignment) : Prop where
  slots : hiderBySlot.len = m.casualRound.hiderBySlot.len
  seated : ∀ playerId, playerId ∈ assignments ↔ playerId ∈ m.casualRound.assignments
  assignment : ∀ playerId, ¬ hidden playerId →
    assignments.lookup playerId = m.casualRound.assignments.lookup playerId
  roles : List.Forall₂ (fun a a' => a'.playerId = a.playerId ∧ (¬ hidden a.playerId → a' = a))
    m.round.roleAssignments roles

/-- The slots of the match, and its role assignments, are still the same. -/
structure KeepsSlots (m m' : MatchState) : Prop where
  assignments : m'.casualRound.assignments = m.casualRound.assignments
  hiderBySlot : m'.casualRound.hiderBySlot = m.casualRound.hiderBySlot
  roles : m'.round.roleAssignments = m.round.roleAssignments

theorem KeepsSlots.refl (m : MatchState) : KeepsSlots m m := ⟨rfl, rfl, rfl⟩

theorem KeepsSlots.trans {m m' m'' : MatchState} (h : KeepsSlots m m') (h' : KeepsSlots m' m'') :
    KeepsSlots m m'' :=
  ⟨h'.assignments.trans h.assignments, h'.hiderBySlot.trans h.hiderBySlot, h'.roles.trans h.roles⟩

section

variable {hidden : String → Prop} {m m' : MatchState} {playerId : String} {now : Time}
  {assignments : GoMap String RoundRoleAssignment} {hiderBySlot : GoMap ℤ String}
  {roles : List RoundRoleAssignment}

theorem Hides.keep (h : Hides hidden m assignments hiderBySlot roles) (hkeeps : KeepsSlots m m') :
    Hides hidden m' assignments hiderBySlot roles where
  slots := by rw [hkeeps.hiderBySlot, h.slots]
  seated playerId := by rw [hkeeps.assignments, h.seated]
  assignment playerId hplayer := by rw [hkeeps.assignments, h.assignment playerId hplayer]
  roles := by
    rw [hkeeps.roles]
    exact h.roles

theorem Hides.playerState (h : Hides hidden m assignments hiderBySlot roles)
    (hplayer : ¬ hidden playerId) :
    (m.reslot assignments hiderBySlot roles).casualRound.playerState playerId =
      m.casualRound.playerState playerId := by
  have hlookup : (m.reslot assignments hiderBySlot roles).casualRound.assignments.lookup playerId =
      m.casualRound.assignments.lookup playerId := h.assignment playerId hplayer
  rw [CasualRoundState.playerState, CasualRoundState.playerState, hlookup]
  rfl

theorem Hides.broadcastRoundPlayerState (h : Hides hidden m assignments hiderBySlot roles)
    (hplayer : ¬ hidden playerId) (other : String) :
    seenBy playerId ((m.reslot assignments hiderBySlot roles).broadcastRoundPlayerState other) =
      seenBy playerId (m.broadcastRoundPlayerState other) := by
  by_cases hother : playerId = other
  · rw [← hother, MatchState.broadcastRoundPlayerState, MatchState.broadcastRoundPlayerState,
      h.playerState hplayer]
    rfl
  · rw [seenBy_playerState_of_ne hother, seenBy_playerState_of_ne hother]

theorem Hides.sortedPlayerIds (h : Hides hidden m assignments hiderBySlot roles) :
    (m.reslot assignments hiderBySlot roles).sortedPlayerIds = m.sortedPlayerIds := by
  have hperm : assignments.keys.Perm m.casualRound.assignments.keys := by
    refine (List.perm_ext_iff_of_nodup assignments.keys_nodup
      m.casualRound.assignments.keys_nodup).mpr fun playerId => ?_
    exact h.seated playerId
  have hsorted : (assignments.keys.insertionSort (· ≤ ·)).Perm
      (m.casualRound.assignments.keys.insertionSort (· ≤ ·)) :=
    ((List.perm_insertionSort _ _).trans hperm).trans (List.perm_insertionSort _ _).symm
  exact hsorted.eq_of_pairwise' (List.pairwise_insertionSort _ _) (List.pairwise_insertionSort _ _)

theorem Hides.broadcastRoundState (h : Hides hidden m assignments hiderBySlot roles)
    (hplayer : ¬ hidden playerId) :
    seenBy playerId (m.reslot assignments hiderBySlot roles).broadcastRoundState =
      seenBy playerId m.broadcastRoundState := by
  have hroles : ∀ {as as' : List RoundRoleAssignment},
      List.Forall₂ (fun a a' => a'.playerId = a.playerId ∧ (¬ hidden a.playerId → a' = a)) as as' →
      seenBy playerId (as'.flatMap fun a => m.sendToPlayer a.playerId (.roundRoleAssigned a)) =
        seenBy playerId (as.flatMap fun a => m.sendToPlayer a.playerId (.roundRoleAssigned a)) := by
    intro as as' hall
    induction hall with
    | nil => rfl
    | @cons a a' as as' hhead _ ih =>
      rw [List.flatMap_cons, List.flatMap_cons, seenBy_append, seenBy_append, ih]
      congr 1
      by_cases hother : playerId = a.playerId
      · rw [hhead.2 (hother ▸ hplayer)]
      · rw [seenBy_sendToPlayer_of_ne hother, seenBy_sendToPlayer_of_ne (hhead.1 ▸ hother)]
  rw [MatchState.broadcastRoundState, MatchState.broadcastRoundState, h.sortedPlayerIds]
  simp only [seenBy_append]
  rw [seenBy_flatMap_congr fun other _ => h.broadcastRoundPlayerState hplayer other]
  have hsent := hroles h.roles
  exact congrArg₂ (· ++ ·) (congrArg₂ (· ++ ·) rfl hsent) rfl

end

/-! ### The calls -/

theorem handleFire_keeps (s : CasualRoundState) (playerId : String) (command : HunterFireCommand)
    (now : Time) : (s.handleFire playerId command now).1.assignments = s.assignments ∧
      (s.handleFire playerId command now).1.hiderBySlot = s.hiderBySlot := by
  have hdiscovered (d : RoundDiscoverySnapshot) : (s.discovered d).assignments = s.assignments ∧
      (s.discovered d).hiderBySlot = s.hiderBySlot := by
    by_cases hall : (s.found d).foundHiders.len = s.hiderBySlot.len
    · rw [CasualRoundState.discovered_of_all hall]
      exact ⟨rfl, rfl⟩
    · rw [CasualRoundState.discovered_of_not_all hall]
      exact ⟨rfl, rfl⟩
  rcases handleFire_cases s playerId command now with
    hsame | ⟨hunter, -, ⟨result, hrecord⟩ | ⟨-, shooter, result, hshot | ⟨d, -, hhit⟩⟩⟩
  · rw [hsame]
    exact ⟨rfl, rfl⟩
  · rw [hrecord]
    exact ⟨rfl, rfl⟩
  · rw [hshot]
    exact ⟨rfl, rfl⟩
  · rw [hhit]
    exact hdiscovered d

/-- The same state but for the slots, and the same messages for everybody who is not `hidden`. -/
structure SameForOthers (hidden : String → Prop) (assignments : GoMap String RoundRoleAssignment)
    (hiderBySlot : GoMap ℤ String) (roles : List RoundRoleAssignment) (h h' : Handled) : Prop where
  state : h'.state = h.state.reslot assignments hiderBySlot roles
  seen : ∀ playerId, ¬ hidden playerId → seenBy playerId h'.sent = seenBy playerId h.sent

section

variable {hidden : String → Prop} {m m' : MatchState} {now : Time}
  {assignments : GoMap String RoundRoleAssignment} {hiderBySlot : GoMap ℤ String}
  {roles : List RoundRoleAssignment}

theorem Hides.applyRound (h : Hides hidden m assignments hiderBySlot roles) :
    (m.reslot assignments hiderBySlot roles).applyRound =
      m.applyRound.reslot assignments hiderBySlot roles := by
  have hslots : (hiderBySlot.len : ℤ) = m.casualRound.hiderBySlot.len := congrArg Nat.cast h.slots
  simp only [MatchState.applyRound, MatchState.reslot, CasualRoundState.apply, CasualRoundState.reslot,
    hslots]
  rfl

theorem Hides.tick (h : Hides hidden m assignments hiderBySlot roles) (now : Time) :
    KeepsSlots m (m.tick now).state ∧
      SameForOthers hidden assignments hiderBySlot roles (m.tick now)
        ((m.reslot assignments hiderBySlot roles).tick now) := by
  have hadvance : (m.reslot assignments hiderBySlot roles).casualRound.advance now =
      ((m.casualRound.advance now).1.reslot assignments hiderBySlot, (m.casualRound.advance now).2) :=
    CasualRoundState.advance_reslot _ m.casualRound le_rfl
  have hframe := CasualRoundState.advance_frame now _ m.casualRound le_rfl
  set advanced : MatchState := { m with casualRound := (m.casualRound.advance now).1 } with hadvanced
  have hkeeps : KeepsSlots m advanced := by
    refine ⟨?_, ?_, rfl⟩
    · rw [hadvanced, hframe]
    · rw [hadvanced, hframe]
  have hides := h.keep hkeeps
  rw [MatchState.tick, MatchState.tick]
  dsimp only
  rw [hadvance]
  dsimp only
  by_cases hphases : (m.casualRound.advance now).2 = []
  · rw [if_pos hphases, if_pos hphases]
    exact ⟨hkeeps, rfl, fun _ _ => rfl⟩
  · rw [if_neg hphases, if_neg hphases]
    have happly : (advanced.reslot assignments hiderBySlot roles).applyRound =
      advanced.applyRound.reslot assignments hiderBySlot roles := hides.applyRound
    have hkeeps' : KeepsSlots advanced advanced.applyRound := ⟨rfl, rfl, rfl⟩
    refine ⟨hkeeps.trans hkeeps', happly, fun playerId hplayer => ?_⟩
    show seenBy playerId (advanced.reslot assignments hiderBySlot roles).applyRound.broadcastRoundState
      = seenBy playerId advanced.applyRound.broadcastRoundState
    rw [happly]
    exact (hides.keep hkeeps').broadcastRoundState hplayer

theorem hits_afterFire (m : MatchState) (tracked : LobbyPresence)
    (fired : CasualRoundState × HunterFireResult × Option RoundDiscoverySnapshot) :
    (m.afterFire tracked fired).hits = [(fired.2.1.hit, fired.2.1.hiderPlayerId)] := by
  rw [MatchState.afterFire]
  dsimp only
  cases fired.2.2 <;> rfl

/-- A message to one session is seen by its player alone. -/
theorem seenBy_session_of_ne {playerId : String} {tracked : LobbyPresence} {message : RoundMessage}
    (h : tracked.playerId ≠ playerId) : seenBy playerId [⟨some [tracked], message⟩] = [] := by
  simp [seenBy, h]

/-- A shot with the same outcome in both matches. -/
theorem Hides.afterFire (h : Hides hidden m assignments hiderBySlot roles) (tracked : LobbyPresence)
    {fired : CasualRoundState × HunterFireResult × Option RoundDiscoverySnapshot}
    (hassignments : fired.1.assignments = m.casualRound.assignments)
    (hslots : fired.1.hiderBySlot = m.casualRound.hiderBySlot) :
    KeepsSlots m (m.afterFire tracked fired).state ∧
      SameForOthers hidden assignments hiderBySlot roles (m.afterFire tracked fired)
        ((m.reslot assignments hiderBySlot roles).afterFire tracked
          (fired.1.reslot assignments hiderBySlot, fired.2)) := by
  set shot : MatchState := { m with casualRound := fired.1 } with hshot
  have hkeeps : KeepsSlots m shot := ⟨hassignments, hslots, rfl⟩
  have hides := h.keep hkeeps
  have hanswer {playerId : String} (hplayer : ¬ hidden playerId) :
      seenBy playerId (⟨some [tracked], .hunterFireResult fired.2.1⟩ ::
        (shot.reslot assignments hiderBySlot roles).broadcastRoundPlayerState tracked.playerId) =
      seenBy playerId (⟨some [tracked], .hunterFireResult fired.2.1⟩ ::
        shot.broadcastRoundPlayerState tracked.playerId) := by
    rw [← List.singleton_append, seenBy_append, hides.broadcastRoundPlayerState hplayer, ← seenBy_append]
    rfl
  rw [MatchState.afterFire, MatchState.afterFire]
  dsimp only
  cases fired.2.2 with
  | none => exact ⟨hkeeps, rfl, fun playerId hplayer => hanswer hplayer⟩
  | some discovery =>
    have happly : (shot.reslot assignments hiderBySlot roles).applyRound =
      shot.applyRound.reslot assignments hiderBySlot roles := hides.applyRound
    have hkeeps' : KeepsSlots shot shot.applyRound := ⟨rfl, rfl, rfl⟩
    refine ⟨hkeeps.trans hkeeps', happly, fun playerId hplayer => ?_⟩
    show seenBy playerId (_ :: (shot.reslot assignments hiderBySlot roles).broadcastRoundPlayerState _ ++
        [_] ++ (shot.reslot assignments hiderBySlot roles).applyRound.broadcastRoundState) =
      seenBy playerId (_ :: shot.broadcastRoundPlayerState _ ++ [_] ++
        shot.applyRound.broadcastRoundState)
    rw [seenBy_append, seenBy_append, seenBy_append, seenBy_append, hanswer hplayer, happly,
      (hides.keep hkeeps').broadcastRoundState hplayer]

theorem Hides.handleMessage (h : Hides hidden m assignments hiderBySlot roles) (message : MatchData)
    (hhits : ((m.reslot assignments hiderBySlot roles).handleMessage now message).hits =
      (m.handleMessage now message).hits) :
    KeepsSlots m (m.handleMessage now message).state ∧
      SameForOthers hidden assignments hiderBySlot roles (m.handleMessage now message)
        ((m.reslot assignments hiderBySlot roles).handleMessage now message) := by
  have hpresences : (m.reslot assignments hiderBySlot roles).presences = m.presences := rfl
  rw [MatchState.handleMessage, MatchState.handleMessage] at hhits ⊢
  rw [hpresences] at hhits ⊢
  cases hdecoded : message.decoded with
  | otherOpcode => exact ⟨.refl m, rfl, fun _ _ => rfl⟩
  | invalid =>
    dsimp only
    cases m.presences.find? fun tracked => tracked.sessionId = message.sessionId with
    | none => exact ⟨.refl m, rfl, fun _ _ => rfl⟩
    | some tracked =>
      refine ⟨.refl m, rfl, fun playerId hplayer => ?_⟩
      by_cases howner : tracked.playerId = playerId
      · -- the answer goes to the sender, whose own state is the same
        have hstate := h.playerState (howner ▸ hplayer)
        dsimp only
        rw [MatchState.invalidCommandResult, MatchState.invalidCommandResult, hstate]
        rfl
      · dsimp only
        rw [seenBy_session_of_ne howner, seenBy_session_of_ne howner]
  | fire command =>
    rw [hdecoded] at hhits
    dsimp only at hhits ⊢
    cases htracked : m.presences.find? fun tracked => tracked.sessionId = message.sessionId with
    | none => exact ⟨.refl m, rfl, fun _ _ => rfl⟩
    | some tracked =>
      rw [htracked] at hhits
      dsimp only at hhits ⊢
      rw [hits_afterFire, hits_afterFire, List.cons.injEq, Prod.mk.injEq] at hhits
      obtain ⟨⟨hhit, hhider⟩, -⟩ := hhits
      have hsame : (m.reslot assignments hiderBySlot roles).casualRound.handleFire tracked.playerId
          command now = ((m.casualRound.handleFire tracked.playerId command now).1.reslot assignments
            hiderBySlot, (m.casualRound.handleFire tracked.playerId command now).2) :=
        CasualRoundState.handleFire_reslot h.slots hhit hhider
      obtain ⟨hassignments, hslots⟩ := handleFire_keeps m.casualRound tracked.playerId command now
      rw [hsame]
      exact h.afterFire tracked hassignments hslots

/-! ### Whole calls -/

theorem presences_afterFire (m : MatchState) (tracked : LobbyPresence)
    (fired : CasualRoundState × HunterFireResult × Option RoundDiscoverySnapshot) :
    (m.afterFire tracked fired).state.presences = m.presences := by
  rw [MatchState.afterFire]
  dsimp only
  cases fired.2.2 <;> rfl

theorem presences_handleMessage (m : MatchState) (now : Time) (message : MatchData) :
    (m.handleMessage now message).state.presences = m.presences := by
  rw [MatchState.handleMessage]
  cases message.decoded with
  | otherOpcode => rfl
  | invalid =>
    dsimp only
    cases m.presences.find? fun tracked => tracked.sessionId = message.sessionId <;> rfl
  | fire command =>
    dsimp only
    cases m.presences.find? fun tracked => tracked.sessionId = message.sessionId with
    | none => rfl
    | some tracked => exact presences_afterFire m tracked _

/-- How many shots a message makes depends on the presences alone. -/
theorem length_hits_handleMessage (hpresences : m'.presences = m.presences) (message : MatchData) :
    (m'.handleMessage now message).hits.length = (m.handleMessage now message).hits.length := by
  rw [MatchState.handleMessage, MatchState.handleMessage, hpresences]
  cases message.decoded with
  | otherOpcode => rfl
  | invalid =>
    dsimp only
    cases m.presences.find? fun tracked => tracked.sessionId = message.sessionId <;> rfl
  | fire command =>
    dsimp only
    cases m.presences.find? fun tracked => tracked.sessionId = message.sessionId with
    | none => rfl
    | some tracked =>
      dsimp only
      rw [hits_afterFire, hits_afterFire]
      rfl

theorem length_hits_handleMessages : ∀ {messages : List MatchData} {m m' : MatchState},
    m'.presences = m.presences →
      (MatchState.handleMessages now m' messages).hits.length =
        (MatchState.handleMessages now m messages).hits.length
  | [], _, _, _ => rfl
  | message :: messages, m, m', hpresences => by
    have hnext : (m'.handleMessage now message).state.presences =
        (m.handleMessage now message).state.presences := by
      rw [presences_handleMessage, presences_handleMessage, hpresences]
    rw [MatchState.handleMessages, MatchState.handleMessages]
    dsimp only
    rw [List.length_append, List.length_append, length_hits_handleMessage hpresences,
      length_hits_handleMessages hnext]

theorem Hides.handleMessages : ∀ {messages : List MatchData} {m : MatchState},
    Hides hidden m assignments hiderBySlot roles →
    (MatchState.handleMessages now (m.reslot assignments hiderBySlot roles) messages).hits =
      (MatchState.handleMessages now m messages).hits →
    KeepsSlots m (MatchState.handleMessages now m messages).state ∧
      SameForOthers hidden assignments hiderBySlot roles (MatchState.handleMessages now m messages)
        (MatchState.handleMessages now (m.reslot assignments hiderBySlot roles) messages)
  | [], m, _, _ => ⟨.refl m, rfl, fun _ _ => rfl⟩
  | message :: messages, m, h, hhits => by
    rw [MatchState.handleMessages, MatchState.handleMessages] at hhits ⊢
    dsimp only at hhits ⊢
    have hpresences : (m.reslot assignments hiderBySlot roles).presences = m.presences := rfl
    obtain ⟨hfirst, hrest⟩ := List.append_inj hhits (length_hits_handleMessage hpresences message)
    obtain ⟨hkeeps, hsame⟩ := h.handleMessage message hfirst
    rw [hsame.state] at hrest ⊢
    obtain ⟨hkeeps', hsame'⟩ := Hides.handleMessages (h.keep hkeeps) hrest
    refine ⟨hkeeps.trans hkeeps', hsame'.state, fun playerId hplayer => ?_⟩
    rw [seenBy_append, seenBy_append, hsame.seen playerId hplayer, hsame'.seen playerId hplayer]

theorem presences_tick (m : MatchState) (now : Time) : (m.tick now).state.presences = m.presences := by
  rw [MatchState.tick]
  dsimp only
  by_cases hphases : (m.casualRound.advance now).2 = []
  · rw [if_pos hphases]
  · rw [if_neg hphases]
    rfl

theorem Hides.handle (h : Hides hidden m assignments hiderBySlot roles) (call : MatchCall)
    (hhits : ((m.reslot assignments hiderBySlot roles).handle call).hits = (m.handle call).hits) :
    KeepsSlots m (m.handle call).state ∧
      SameForOthers hidden assignments hiderBySlot roles (m.handle call)
        ((m.reslot assignments hiderBySlot roles).handle call) := by
  cases call with
  | matchLoop now messages =>
    obtain ⟨hkeeps, hsame⟩ := h.tick now
    simp only [MatchState.handle, MatchState.matchLoop] at hhits ⊢
    rw [hsame.state] at hhits ⊢
    obtain ⟨hkeeps', hsame'⟩ := (h.keep hkeeps).handleMessages hhits
    refine ⟨hkeeps.trans hkeeps', hsame'.state, fun playerId hplayer => ?_⟩
    rw [seenBy_append, seenBy_append, hsame.seen playerId hplayer, hsame'.seen playerId hplayer]
  | matchJoin presences =>
    have hkeeps : KeepsSlots m (m.join presences) := ⟨rfl, rfl, rfl⟩
    exact ⟨hkeeps, rfl, fun playerId hplayer => (h.keep hkeeps).broadcastRoundState hplayer⟩
  | matchLeave sessionIds => exact ⟨⟨rfl, rfl, rfl⟩, rfl, fun _ _ => rfl⟩
  | sync => exact ⟨.refl m, rfl, fun playerId hplayer => h.broadcastRoundState hplayer⟩

theorem length_hits_handle (call : MatchCall) :
    ((m.reslot assignments hiderBySlot roles).handle call).hits.length =
      (m.handle call).hits.length := by
  cases call with
  | matchLoop now messages =>
    have hpresences : ((m.reslot assignments hiderBySlot roles).tick now).state.presences =
        (m.tick now).state.presences := by
      rw [presences_tick, presences_tick]
      rfl
    exact length_hits_handleMessages hpresences
  | matchJoin presences => rfl
  | matchLeave sessionIds => rfl
  | sync => rfl

theorem Hides.handleAll : ∀ {calls : List MatchCall} {m : MatchState},
    Hides hidden m assignments hiderBySlot roles →
    ((m.reslot assignments hiderBySlot roles).handleAll calls).hits = (m.handleAll calls).hits →
    KeepsSlots m (m.handleAll calls).state ∧
      SameForOthers hidden assignments hiderBySlot roles (m.handleAll calls)
        ((m.reslot assignments hiderBySlot roles).handleAll calls)
  | [], m, _, _ => ⟨.refl m, rfl, fun _ _ => rfl⟩
  | call :: calls, m, h, hhits => by
    rw [MatchState.handleAll, MatchState.handleAll] at hhits ⊢
    dsimp only at hhits ⊢
    obtain ⟨hfirst, hrest⟩ := List.append_inj hhits (length_hits_handle call)
    obtain ⟨hkeeps, hsame⟩ := h.handle call hfirst
    rw [hsame.state] at hrest ⊢
    obtain ⟨hkeeps', hsame'⟩ := Hides.handleAll (h.keep hkeeps) hrest
    refine ⟨hkeeps.trans hkeeps', hsame'.state, fun playerId hplayer => ?_⟩
    rw [seenBy_append, seenBy_append, hsame.seen playerId hplayer, hsame'.seen playerId hplayer]

end

/-! ### The calls of a round -/

/-- What the calls of a round return: the phases of every `Advance`, and the result and the discovery of
every `HandleFire`. -/
inductive Answer where
  | advanced (phases : List Phase)
  | fired (result : HunterFireResult) (discovery : Option RoundDiscoverySnapshot)
deriving DecidableEq

/-- Whom an answer says to be hit. -/
def Answer.hits : Answer → Option (Bool × String)
  | advanced _ => none
  | fired result _ => some (result.hit, result.hiderPlayerId)

namespace CasualRoundState

def answer (s : CasualRoundState) : RoundCall → CasualRoundState × Answer
  | .advance now => ((s.advance now).1, .advanced (s.advance now).2)
  | .handleFire playerId command now =>
    ((s.handleFire playerId command now).1,
      .fired (s.handleFire playerId command now).2.1 (s.handleFire playerId command now).2.2)

def answers : CasualRoundState → List RoundCall → CasualRoundState × List Answer
  | s, [] => (s, [])
  | s, call :: calls =>
    let rest := answers (s.answer call).1 calls
    (rest.1, (s.answer call).2 :: rest.2)

section

variable {assignments : GoMap String RoundRoleAssignment} {hiderBySlot : GoMap ℤ String}

theorem answer_reslot {s : CasualRoundState} (hlen : hiderBySlot.len = s.hiderBySlot.len)
    (call : RoundCall)
    (hhits : ((s.reslot assignments hiderBySlot).answer call).2.hits = (s.answer call).2.hits) :
    (s.reslot assignments hiderBySlot).answer call =
        ((s.answer call).1.reslot assignments hiderBySlot, (s.answer call).2) ∧
      (s.answer call).1.hiderBySlot.len = s.hiderBySlot.len := by
  cases call with
  | advance now =>
    have hadvance : (s.reslot assignments hiderBySlot).advance now =
        ((s.advance now).1.reslot assignments hiderBySlot, (s.advance now).2) :=
      advance_reslot _ s le_rfl
    rw [answer, answer, hadvance]
    refine ⟨rfl, ?_⟩
    show (s.advance now).1.hiderBySlot.len = _
    rw [advance_frame now _ s le_rfl]
  | handleFire playerId command now =>
    obtain ⟨hhit, hhider⟩ := Prod.mk.inj (Option.some.inj hhits)
    rw [answer, answer, handleFire_reslot hlen hhit hhider]
    refine ⟨rfl, ?_⟩
    show (s.handleFire playerId command now).1.hiderBySlot.len = _
    rw [(handleFire_keeps s playerId command now).2]

theorem answers_reslot : ∀ {calls : List RoundCall} {s : CasualRoundState},
    hiderBySlot.len = s.hiderBySlot.len →
    ((s.reslot assignments hiderBySlot).answers calls).2.map Answer.hits =
      (s.answers calls).2.map Answer.hits →
    (s.reslot assignments hiderBySlot).answers calls =
      ((s.answers calls).1.reslot assignments hiderBySlot, (s.answers calls).2)
  | [], _, _, _ => rfl
  | call :: calls, s, hlen, hhits => by
    rw [answers, answers] at hhits ⊢
    dsimp only at hhits ⊢
    rw [List.map_cons, List.map_cons, List.cons.injEq] at hhits
    obtain ⟨hanswer, hkept⟩ := answer_reslot hlen call hhits.1
    have hrest := hhits.2
    rw [hanswer] at hrest ⊢
    rw [answers_reslot (hlen.trans hkept.symm) hrest]

end

end CasualRoundState

/-! ### Noninterference -/

/-- Two matches that differ in the slots of players who are `hidden`, which may be the hiders that are
discovered in neither. -/
structure DifferInSlots (hidden : String → Prop) (m m' : MatchState) : Prop where
  presences : m'.presences = m.presences
  casualRound : m'.casualRound = { m.casualRound with
    assignments := m'.casualRound.assignments, hiderBySlot := m'.casualRound.hiderBySlot }
  round : m'.round = { m.round with roleAssignments := m'.round.roleAssignments }
  hides : Hides hidden m m'.casualRound.assignments m'.casualRound.hiderBySlot m'.round.roleAssignments

theorem DifferInSlots.eq_reslot {hidden : String → Prop} {m m' : MatchState}
    (h : DifferInSlots hidden m m') : m' =
      m.reslot m'.casualRound.assignments m'.casualRound.hiderBySlot m'.round.roleAssignments := by
  obtain ⟨presences, round, casualRound⟩ := m'
  have hpresences : presences = m.presences := h.presences
  have hround : round = { m.round with roleAssignments := round.roleAssignments } := h.round
  have hcasual : casualRound = m.casualRound.reslot casualRound.assignments casualRound.hiderBySlot :=
    h.casualRound
  show MatchState.mk presences round casualRound =
    MatchState.mk m.presences { m.round with roleAssignments := round.roleAssignments }
      (m.casualRound.reslot casualRound.assignments casualRound.hiderBySlot)
  rw [← hpresences, ← hround, ← hcasual]

theorem differInSlots_of_reslot {hidden : String → Prop} {m : MatchState}
    {assignments : GoMap String RoundRoleAssignment} {hiderBySlot : GoMap ℤ String}
    {roles : List RoundRoleAssignment} (h : Hides hidden m assignments hiderBySlot roles) :
    DifferInSlots hidden m (m.reslot assignments hiderBySlot roles) :=
  ⟨rfl, rfl, rfl, h⟩

/-- **Hidden slots do not interfere.**  Two matches that differ in the slots of the `hidden` hiders alone:
under any common calls of a round whose shots hit the same hiders, both rounds give the same answers and
keep differing in the slots alone; and under any common calls of the match handler whose shots hit the
same hiders, everybody who is not `hidden` receives the same messages. -/
theorem hidden_slots_do_not_interfere {hidden : String → Prop} {m m' : MatchState}
    (h : DifferInSlots hidden m m') :
    (∀ calls, (m'.casualRound.answers calls).2.map Answer.hits =
        (m.casualRound.answers calls).2.map Answer.hits →
      (m'.casualRound.answers calls).2 = (m.casualRound.answers calls).2 ∧
        (m'.casualRound.answers calls).1 = { (m.casualRound.answers calls).1 with
          assignments := m'.casualRound.assignments, hiderBySlot := m'.casualRound.hiderBySlot }) ∧
    ∀ calls, (m'.handleAll calls).hits = (m.handleAll calls).hits →
      DifferInSlots hidden (m.handleAll calls).state (m'.handleAll calls).state ∧
        ∀ playerId, ¬ hidden playerId →
          seenBy playerId (m'.handleAll calls).sent = seenBy playerId (m.handleAll calls).sent := by
  have heq := h.eq_reslot
  have hides := h.hides
  generalize m'.casualRound.assignments = assignments at heq hides ⊢
  generalize m'.casualRound.hiderBySlot = hiderBySlot at heq hides ⊢
  generalize m'.round.roleAssignments = roles at heq hides ⊢
  subst heq
  refine ⟨fun calls hhits => ?_, fun calls hhits => ?_⟩
  · have hanswers := CasualRoundState.answers_reslot hides.slots hhits
    have hcasual : (m.reslot assignments hiderBySlot roles).casualRound =
        m.casualRound.reslot assignments hiderBySlot := rfl
    rw [hcasual, hanswers]
    exact ⟨rfl, rfl⟩
  · obtain ⟨hkeeps, hsame⟩ := hides.handleAll hhits
    rw [hsame.state]
    exact ⟨differInSlots_of_reslot (hides.keep hkeeps), hsame.seen⟩

/-! ### One hider in another slot -/

/-- The match of three players, each with a session. -/
def threePlayerMatch : MatchState where
  presences := [⟨"s1", "01890f3e-0000-7000-8000-0000000000a1"⟩,
    ⟨"s2", "01890f3e-0000-7000-8000-0000000000a2"⟩, ⟨"s3", "01890f3e-0000-7000-8000-0000000000a3"⟩]
  round := { threePlayerRound with
    status := .preparing, phaseDeadline := none, hidersTotal := 2, hidersRemaining := 2,
    discoveredHiderPlayerIds := [], winningSide := .other "", completionReason := .unset,
    sequenceNumber := 1 }
  casualRound := ((newCasualRoundState threePlayerRound).toOption).getD (unseatedRound threePlayerRound)

/-- The third player in slot 3 in the place of slot 2. -/
def movedHider : RoundRoleAssignment := ⟨"01890f3e-0000-7000-8000-0000000000a3", .hider, false, 3⟩

theorem hides_movedHider :
    Hides (· = "01890f3e-0000-7000-8000-0000000000a3") threePlayerMatch
      (threePlayerMatch.casualRound.assignments.insert "01890f3e-0000-7000-8000-0000000000a3" movedHider)
      ((threePlayerMatch.casualRound.hiderBySlot.erase 2).insert 3
        "01890f3e-0000-7000-8000-0000000000a3")
      (threePlayerRound.roleAssignments.take 2 ++ [movedHider]) where
  slots := by decide
  seated playerId := by
    rw [AList.mem_insert, or_iff_right_iff_imp]
    rintro rfl
    decide
  assignment playerId hplayer := AList.lookup_insert_ne hplayer
  roles := .cons ⟨rfl, fun _ => rfl⟩ (.cons ⟨rfl, fun _ => rfl⟩
    (.cons ⟨rfl, fun hplayer => absurd rfl hplayer⟩ .nil))

def movedMatch : MatchState :=
  threePlayerMatch.reslot
    (threePlayerMatch.casualRound.assignments.insert "01890f3e-0000-7000-8000-0000000000a3" movedHider)
    ((threePlayerMatch.casualRound.hiderBySlot.erase 2).insert 3 "01890f3e-0000-7000-8000-0000000000a3")
    (threePlayerRound.roleAssignments.take 2 ++ [movedHider])

/-- The hunt begins and the hunter finds the second player. -/
def firstHitCalls : List MatchCall :=
  [.matchLoop 3500000000 [], .matchLoop 3600000000 [⟨"s1", .fire ⟨"shot-1", 1⟩⟩]]

/-- The hunter learns nothing about the third player. -/
theorem hidden_slots_do_not_interfere_three_players :
    (threePlayerMatch.handleAll firstHitCalls).hits =
        [(true, "01890f3e-0000-7000-8000-0000000000a2")] ∧
      seenBy "01890f3e-0000-7000-8000-0000000000a1" (movedMatch.handleAll firstHitCalls).sent =
        seenBy "01890f3e-0000-7000-8000-0000000000a1" (threePlayerMatch.handleAll firstHitCalls).sent := by
  have hdiffer := differInSlots_of_reslot hides_movedHider
  have hhits : (movedMatch.handleAll firstHitCalls).hits =
    (threePlayerMatch.handleAll firstHitCalls).hits := rfl
  exact ⟨rfl, ((hidden_slots_do_not_interfere hdiffer).2 _ hhits).2 _ (by decide)⟩

end HiveChameleon.Nakama
