import HiveChameleon.Lib.Run
import Mathlib.Data.List.AList

/-!
# Nakama.CasualRound — the Casual round machine

`runtime/nakama/casual_round.go`: the state a round starts from, `Advance` and `HandleFire`.  A Go
map is an association list with distinct keys, an instant is its distance from the zero
`time.Time`, and a string that the code compares with constants is a type with those constants and
one constructor for any other text.  Durations are counted in nanoseconds without the wrap of `int64`:
the columns behind them are 32-bit integers, from which none can wrap
(`newCasualRoundState_durations`).
-/

namespace HiveChameleon.Nakama

open Lib

/-- An instant; `time.Time{}` is zero. -/
abbrev Time := ℤ

/-- `map[K]V` -/
abbrev GoMap (K V : Type) := AList fun _ : K => V

/-- `len` of a map. -/
def GoMap.len {K V : Type} (m : GoMap K V) : ℕ := m.keys.length

inductive PlayerRole where
  | hider | hunter | other (text : String)
deriving DecidableEq, Repr

inductive WinningSide where
  | hiders | hunters | none | other (text : String)
deriving DecidableEq, Repr

inductive Phase where
  | preparing | hiding | hunting | terminal | other (text : String)
deriving DecidableEq, Repr

inductive CompletionReason where
  | unset | huntTimeout | allHidersFound | invalidPhase
deriving DecidableEq, Repr

inductive FireReason where
  | invalidCommand | notHunter | commandLimitReached | roundTerminal | notHunting | invalidAimSlot
  | reloading | outOfShells | miss | hit
deriving DecidableEq, Repr

def casualPreparingDuration : ℤ := 2 * 1000000000

def minimumCasualTargetSlots : ℕ := 3

def maximumProcessedCommands : ℕ := 256

structure RoundRoleAssignment where
  playerId : String
  role : PlayerRole
  hunterVolunteer : Bool
  hidingSlot : ℤ
deriving DecidableEq, Repr

/-- The fields of a `roundSnapshot` that `newCasualRoundState` reads. -/
structure RoundSnapshot where
  id : String
  mode : String
  startedAt : Time
  targetSlotCount : ℤ
  hidingDurationSeconds : ℤ
  huntingDurationSeconds : ℤ
  shellLimit : ℤ
  reloadDurationMs : ℤ
  roleAssignments : List RoundRoleAssignment
deriving DecidableEq, Repr

structure HunterFireCommand where
  commandId : String
  aimSlot : ℤ
deriving DecidableEq, Repr

structure HunterFireResult where
  roundId : String
  commandId : String
  accepted : Bool
  reason : FireReason
  aimSlot : ℤ
  hit : Bool
  hiderPlayerId : String
  shellsRemaining : ℤ
  reloadUntil : Option Time
  roundIsTerminal : Bool
deriving DecidableEq, Repr

structure RoundDiscoverySnapshot where
  roundId : String
  hunterPlayerId : String
  hiderPlayerId : String
  sequence : ℤ
  aimSlot : ℤ
  occurredAt : Time
deriving DecidableEq, Repr

structure CasualHunterState where
  shellsRemaining : ℤ
  reloadUntil : Time
  commands : GoMap String HunterFireResult

structure CasualRoundState where
  roundId : String
  phase : Phase
  phaseDeadline : Time
  hidingDuration : ℤ
  huntingDuration : ℤ
  reloadDuration : ℤ
  targetSlotCount : ℤ
  assignments : GoMap String RoundRoleAssignment
  hiderBySlot : GoMap ℤ String
  foundHiders : GoMap String RoundDiscoverySnapshot
  hunters : GoMap String CasualHunterState
  discoveries : List RoundDiscoverySnapshot
  winningSide : WinningSide
  completionReason : CompletionReason

/-! ### `newCasualRoundState` -/

/-- One iteration of the loop over the role assignments. -/
def seatAssignment (round : RoundSnapshot) (state : CasualRoundState)
    (assignment : RoundRoleAssignment) : Except String CasualRoundState :=
  if assignment.playerId = "" then .error "Casual round assignment player is required"
  else if assignment.playerId ∈ state.assignments then
    .error "Casual round assignments must be unique"
  else
    let state :=
      { state with assignments := state.assignments.insert assignment.playerId assignment }
    match assignment.role with
    | .hunter =>
      .ok { state with
        hunters := state.hunters.insert assignment.playerId ⟨round.shellLimit, 0, ∅⟩ }
    | .hider =>
      if assignment.hidingSlot < 1 ∨ round.targetSlotCount < assignment.hidingSlot then
        .error "Casual Hider slot is invalid"
      else if assignment.hidingSlot ∈ state.hiderBySlot then
        .error "Casual Hider slots must be unique"
      else
        .ok { state with
          hiderBySlot := state.hiderBySlot.insert assignment.hidingSlot assignment.playerId }
    | .other _ => .error "Casual round assignment role is invalid"

def seatAssignments (round : RoundSnapshot) :
    CasualRoundState → List RoundRoleAssignment → Except String CasualRoundState
  | state, [] => .ok state
  | state, assignment :: assignments =>
    match seatAssignment round state assignment with
    | .error e => .error e
    | .ok state => seatAssignments round state assignments

section Seating

variable {round : RoundSnapshot} {a : RoundRoleAssignment} {assignments : List RoundRoleAssignment}
  {s s' : CasualRoundState}

/-- **Seating an assignment**: a new player becomes a hunter with all shells, or a hider on a free slot
of the map. -/
theorem seatAssignment_eq_ok : seatAssignment round s a = .ok s' ↔
    a.playerId ≠ "" ∧ a.playerId ∉ s.assignments ∧
      (a.role = .hunter ∧ s' = { s with
          assignments := s.assignments.insert a.playerId a
          hunters := s.hunters.insert a.playerId ⟨round.shellLimit, 0, ∅⟩ } ∨
        a.role = .hider ∧ (1 ≤ a.hidingSlot ∧ a.hidingSlot ≤ round.targetSlotCount) ∧
          a.hidingSlot ∉ s.hiderBySlot ∧ s' = { s with
            assignments := s.assignments.insert a.playerId a
            hiderBySlot := s.hiderBySlot.insert a.hidingSlot a.playerId }) := by
  unfold seatAssignment
  by_cases hempty : a.playerId = ""
  · rw [if_pos hempty]
    exact ⟨fun h => (by cases h), fun h => absurd hempty h.1⟩
  rw [if_neg hempty]
  by_cases hseated : a.playerId ∈ s.assignments
  · rw [if_pos hseated]
    exact ⟨fun h => (by cases h), fun h => absurd hseated h.2.1⟩
  rw [if_neg hseated]
  cases hrole : a.role with
  | hunter =>
    constructor
    · intro h
      exact ⟨hempty, hseated, .inl ⟨rfl, (Except.ok.inj h).symm⟩⟩
    · rintro ⟨-, -, ⟨-, rfl⟩ | ⟨hother, -⟩⟩
      · rfl
      · cases hother
  | hider =>
    dsimp only
    by_cases hslot : a.hidingSlot < 1 ∨ round.targetSlotCount < a.hidingSlot
    · rw [if_pos hslot]
      constructor
      · intro h
        cases h
      · rintro ⟨-, -, ⟨hother, -⟩ | ⟨-, hrange, -⟩⟩
        · cases hother
        · omega
    rw [if_neg hslot]
    by_cases htaken : a.hidingSlot ∈ s.hiderBySlot
    · rw [if_pos htaken]
      constructor
      · intro h
        cases h
      · rintro ⟨-, -, ⟨hother, -⟩ | ⟨-, -, hfree, -⟩⟩
        · cases hother
        · exact absurd htaken hfree
    rw [if_neg htaken]
    constructor
    · intro h
      exact ⟨hempty, hseated, .inr ⟨rfl, by omega, htaken, (Except.ok.inj h).symm⟩⟩
    · rintro ⟨-, -, ⟨hother, -⟩ | ⟨-, -, -, rfl⟩⟩
      · cases hother
      · rfl
  | other text =>
    constructor
    · intro h
      cases h
    · rintro ⟨-, -, ⟨hother, -⟩ | ⟨hother, -⟩⟩ <;> cases hother

theorem seatAssignments_cons : seatAssignments round s (a :: assignments) = .ok s' ↔
    ∃ mid, seatAssignment round s a = .ok mid ∧ seatAssignments round mid assignments = .ok s' := by
  rw [seatAssignments]
  cases hseat : seatAssignment round s a with
  | error e => exact ⟨fun h => (by cases h), fun ⟨mid, hmid, _⟩ => (by cases hmid)⟩
  | ok mid =>
    constructor
    · intro h
      exact ⟨mid, rfl, h⟩
    · rintro ⟨mid', hmid, h⟩
      rw [← Except.ok.inj hmid] at h
      exact h

end Seating

/-- The state before any assignment is seated. -/
def unseatedRound (round : RoundSnapshot) : CasualRoundState where
  roundId := round.id
  phase := .preparing
  phaseDeadline := round.startedAt + casualPreparingDuration
  hidingDuration := round.hidingDurationSeconds * 1000000000
  huntingDuration := round.huntingDurationSeconds * 1000000000
  reloadDuration := round.reloadDurationMs * 1000000
  targetSlotCount := round.targetSlotCount
  assignments := ∅
  hiderBySlot := ∅
  foundHiders := ∅
  hunters := ∅
  discoveries := []
  winningSide := .other ""
  completionReason := .unset

def newCasualRoundState (round : RoundSnapshot) : Except String CasualRoundState :=
  if round.id = "" ∨ round.mode ≠ "casual" then .error "valid Casual round is required"
  else if round.hidingDurationSeconds ≤ 0 ∨ round.huntingDurationSeconds ≤ 0 ∨
      round.shellLimit ≤ 0 ∨ round.reloadDurationMs ≤ 0 then
    .error "Casual round rules are invalid"
  else
    match seatAssignments round (unseatedRound round) round.roleAssignments with
    | .error e => .error e
    | .ok state =>
      if state.hunters.len = 0 ∨ state.hiderBySlot.len = 0 then
        .error "Casual round requires Hunters and Hiders"
      else .ok state

/-! ### `Advance` -/

namespace CasualRoundState

def complete (s : CasualRoundState) (winningSide : WinningSide) (reason : CompletionReason) :
    CasualRoundState :=
  { s with
    phase := .terminal, phaseDeadline := 0, winningSide := winningSide, completionReason := reason }

/-- One iteration of the loop of `Advance`. -/
def nextPhase (s : CasualRoundState) : CasualRoundState :=
  match s.phase with
  | .preparing => { s with phase := .hiding, phaseDeadline := s.phaseDeadline + s.hidingDuration }
  | .hiding => { s with phase := .hunting, phaseDeadline := s.phaseDeadline + s.huntingDuration }
  | .hunting => s.complete .hiders .huntTimeout
  | _ => s.complete .none .invalidPhase

/-- How many iterations the loop of `Advance` can take from a phase. -/
def phasesLeft (s : CasualRoundState) : ℕ :=
  match s.phase with
  | .preparing => 3
  | .hiding => 2
  | .hunting => 1
  | .other _ => 1
  | .terminal => 0

/-- The loop of `Advance`, at most `fuel` times. -/
def advanceFrom (now : Time) : ℕ → CasualRoundState → CasualRoundState × List Phase
  | 0, s => (s, [])
  | fuel + 1, s =>
    if s.phase ≠ .terminal ∧ s.phaseDeadline ≤ now then
      let rest := advanceFrom now fuel s.nextPhase
      (rest.1, s.nextPhase.phase :: rest.2)
    else (s, [])

def advance (s : CasualRoundState) (now : Time) : CasualRoundState × List Phase :=
  advanceFrom now s.phasesLeft s

theorem phasesLeft_nextPhase {s : CasualRoundState} (h : s.phase ≠ .terminal) :
    s.nextPhase.phasesLeft + 1 = s.phasesLeft := by
  unfold nextPhase phasesLeft
  cases hphase : s.phase <;> simp_all [complete]

theorem phase_eq_terminal_of_phasesLeft {s : CasualRoundState} (h : s.phasesLeft = 0) :
    s.phase = .terminal := by
  unfold phasesLeft at h
  cases hphase : s.phase <;> simp_all

/-! ### `HandleFire` -/

/-- `hunter.Commands[command.CommandID] = result` -/
def recordResult (s : CasualRoundState) (playerId : String) (hunter : CasualHunterState)
    (result : HunterFireResult) : CasualRoundState :=
  { s with hunters := s.hunters.insert playerId
            { hunter with commands := hunter.commands.insert result.commandId result } }

/-- The checks of `HandleFire` that refuse a hunter's command and record the refusal. -/
def fireRefusal (s : CasualRoundState) (hunter : CasualHunterState) (command : HunterFireCommand)
    (now : Time) : Option FireReason :=
  if s.phase ≠ .hunting then
    if s.phase = .terminal then some .roundTerminal else some .notHunting
  else if command.aimSlot < 1 ∨ s.targetSlotCount < command.aimSlot then some .invalidAimSlot
  else if now < hunter.reloadUntil then some .reloading
  else if hunter.shellsRemaining ≤ 0 then some .outOfShells
  else none

/-- The discovery that a shot makes: the hider of the slot, unless it is found already. -/
def discovers (s : CasualRoundState) (playerId : String) (aimSlot : ℤ) (now : Time) :
    Option RoundDiscoverySnapshot :=
  match s.hiderBySlot.lookup aimSlot with
  | none => none
  | some hiderPlayerId =>
    if hiderPlayerId ≠ "" ∧ hiderPlayerId ∉ s.foundHiders then
      some {
        roundId := s.roundId
        hunterPlayerId := playerId
        hiderPlayerId := hiderPlayerId
        sequence := s.discoveries.length + 1
        aimSlot := aimSlot
        occurredAt := now }
    else none

/-- The state after a discovery; the last hider found completes the round. -/
def discovered (s : CasualRoundState) (discovery : RoundDiscoverySnapshot) : CasualRoundState :=
  let s := { s with
    foundHiders := s.foundHiders.insert discovery.hiderPlayerId discovery
    discoveries := s.discoveries ++ [discovery] }
  if s.foundHiders.len = s.hiderBySlot.len then s.complete .hunters .allHidersFound else s

/-- The shot of a hunter whose command passed every check. -/
def shoot (s : CasualRoundState) (playerId : String) (hunter : CasualHunterState)
    (result : HunterFireResult) (now : Time) :
    CasualRoundState × HunterFireResult × Option RoundDiscoverySnapshot :=
  let hunter := { hunter with
    shellsRemaining := hunter.shellsRemaining - 1, reloadUntil := now + s.reloadDuration }
  let result := { result with
    accepted := true
    reason := .miss
    shellsRemaining := hunter.shellsRemaining
    reloadUntil := some hunter.reloadUntil }
  match s.discovers playerId result.aimSlot now with
  | none => (s.recordResult playerId hunter result, result, none)
  | some discovery =>
    let s := s.discovered discovery
    let result := { result with
      reason := .hit
      hit := true
      hiderPlayerId := discovery.hiderPlayerId
      roundIsTerminal := result.roundIsTerminal || s.phase = .terminal }
    (s.recordResult playerId hunter result, result, some discovery)

def handleFire (s : CasualRoundState) (playerId : String) (command : HunterFireCommand)
    (now : Time) : CasualRoundState × HunterFireResult × Option RoundDiscoverySnapshot :=
  let result : HunterFireResult := {
    roundId := s.roundId
    commandId := command.commandId
    accepted := false
    reason := .invalidCommand
    aimSlot := command.aimSlot
    hit := false
    hiderPlayerId := ""
    shellsRemaining := 0
    reloadUntil := none
    roundIsTerminal := s.phase = .terminal }
  match s.hunters.lookup playerId with
  | none => (s, { result with reason := .notHunter }, none)
  | some hunter =>
    match hunter.commands.lookup command.commandId with
    | some previous => (s, previous, none)
    | none =>
      let result := { result with
        shellsRemaining := hunter.shellsRemaining
        reloadUntil := if hunter.reloadUntil = 0 then none else some hunter.reloadUntil }
      if maximumProcessedCommands ≤ hunter.commands.len then
        (s, { result with reason := .commandLimitReached }, none)
      else
        match s.fireRefusal hunter command now with
        | some reason =>
          let result := { result with reason := reason }
          (s.recordResult playerId hunter result, result, none)
        | none => s.shoot playerId hunter result now

end CasualRoundState

/-! ### Runs of a round -/

/-- What a match handler does to a round. -/
inductive RoundCall where
  | advance (now : Time)
  | handleFire (playerId : String) (command : HunterFireCommand) (now : Time)
deriving DecidableEq, Repr

def RoundCall.apply (s : CasualRoundState) : RoundCall → CasualRoundState
  | .advance now => (s.advance now).1
  | .handleFire playerId command now => (s.handleFire playerId command now).1

def RoundStep (s : CasualRoundState) (call : RoundCall) (s' : CasualRoundState) : Prop :=
  call.apply s = s'

/-- Plays a round through a list of calls. -/
def playRound (round : RoundSnapshot) (calls : List RoundCall) : Except String CasualRoundState :=
  match newCasualRoundState round with
  | .error e => .error e
  | .ok s => .ok (calls.foldl RoundCall.apply s)

theorem playRound_run {round : RoundSnapshot} {calls : List RoundCall} {s : CasualRoundState}
    (h : playRound round calls = .ok s) :
    ∃ s₀ ts, newCasualRoundState round = .ok s₀ ∧ Run RoundStep s₀ ts s := by
  unfold playRound at h
  split at h
  · cases h
  · rename_i s₀ hs₀
    cases h
    have hstep : ∀ (s : CasualRoundState) (call : RoundCall), RoundStep s call (call.apply s) :=
      fun _ _ => rfl
    obtain ⟨ts, hts⟩ := Run.of_foldl hstep calls s₀
    exact ⟨s₀, ts, hs₀, hts⟩

end HiveChameleon.Nakama
