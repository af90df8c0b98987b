import HiveChameleon.Nakama.RoundTicks
import Mathlib.Data.List.Chain

/-!
# Nakama.ShotAccounting — the shells and the stored commands of a hunter

What `HandleFire` does on each of its returns, and the ledger of a hunter over a run: every accepted shot
costs a shell, waits for the reload and leaves its result under its command id for good.
-/

namespace HiveChameleon.Nakama

open Lib

/-! ### The returns of `HandleFire` -/

/-- The result that is stored under a command id. -/
def storedResult (s : CasualRoundState) (playerId commandId : String) : Option HunterFireResult :=
  (s.hunters.lookup playerId).bind fun hunter => hunter.commands.lookup commandId

/-- What a command leaves and returns, a constructor for each kind of return. -/
inductive Fired (s : CasualRoundState) (playerId : String) (command : HunterFireCommand) (now : Time) :
    CasualRoundState × HunterFireResult × Option RoundDiscoverySnapshot → Prop where
  | notHunter {result : HunterFireResult} (hhunter : s.hunters.lookup playerId = none)
      (haccepted : result.accepted = false) : Fired s playerId command now (s, result, none)
  | replayed {hunter : CasualHunterState} {previous : HunterFireResult}
      (hhunter : s.hunters.lookup playerId = some hunter)
      (hstored : hunter.commands.lookup command.commandId = some previous) :
      Fired s playerId command now (s, previous, none)
  | overLimit {hunter : CasualHunterState} {result : HunterFireResult}
      (hhunter : s.hunters.lookup playerId = some hunter)
      (hfresh : hunter.commands.lookup command.commandId = none)
      (hlimit : maximumProcessedCommands ≤ hunter.commands.len) (haccepted : result.accepted = false) :
      Fired s playerId command now (s, result, none)
  | refused {hunter : CasualHunterState} {result : HunterFireResult}
      (hhunter : s.hunters.lookup playerId = some hunter)
      (hfresh : hunter.commands.lookup command.commandId = none)
      (hroom : hunter.commands.len < maximumProcessedCommands)
      (hid : result.commandId = command.commandId) (haccepted : result.accepted = false) :
      Fired s playerId command now (s.recordResult playerId hunter result, result, none)
  | shot {hunter : CasualHunterState} {result : HunterFireResult} {aimed : CasualRoundState}
      {discovery : Option RoundDiscoverySnapshot}
      (hhunter : s.hunters.lookup playerId = some hunter)
      (hfresh : hunter.commands.lookup command.commandId = none)
      (hroom : hunter.commands.len < maximumProcessedCommands)
      (hid : result.commandId = command.commandId) (haccepted : result.accepted = true)
      (hready : hunter.reloadUntil ≤ now) (hhunters : aimed.hunters = s.hunters)
      (hreload : aimed.reloadDuration = s.reloadDuration) :
      Fired s playerId command now
        (aimed.recordResult playerId { hunter with
          shellsRemaining := hunter.shellsRemaining - 1, reloadUntil := now + s.reloadDuration } result,
          result, discovery)

section

variable {s : CasualRoundState} {hunter : CasualHunterState} {command : HunterFireCommand} {now : Time}

theorem ready_of_fireRefusal (h : s.fireRefusal hunter command now = none) :
    hunter.reloadUntil ≤ now := by
  rw [CasualRoundState.fireRefusal] at h
  by_cases hphase : s.phase ≠ .hunting
  · rw [if_pos hphase] at h
    by_cases hterm : s.phase = .terminal
    · rw [if_pos hterm] at h
      cases h
    · rw [if_neg hterm] at h
      cases h
  rw [if_neg hphase] at h
  by_cases haim : command.aimSlot < 1 ∨ s.targetSlotCount < command.aimSlot
  · rw [if_pos haim] at h
    cases h
  rw [if_neg haim] at h
  by_cases hreload : now < hunter.reloadUntil
  · rw [if_pos hreload] at h
    cases h
  · exact Int.not_lt.mp hreload

/-- A discovery touches neither the hunters nor the reload. -/
theorem discovered_hunters (s : CasualRoundState) (d : RoundDiscoverySnapshot) :
    (s.discovered d).hunters = s.hunters ∧ (s.discovered d).reloadDuration = s.reloadDuration := by
  rw [CasualRoundState.discovered]
  dsimp only
  by_cases hall : GoMap.len (s.foundHiders.insert d.hiderPlayerId d) = s.hiderBySlot.len
  · rw [if_pos hall]
    exact ⟨rfl, rfl⟩
  · rw [if_neg hall]
    exact ⟨rfl, rfl⟩

theorem handleFire_fired (s : CasualRoundState) (playerId : String) (command : HunterFireCommand)
    (now : Time) : Fired s playerId command now (s.handleFire playerId command now) := by
  rw [CasualRoundState.handleFire]
  dsimp only
  cases hhunter : s.hunters.lookup playerId with
  | none => exact .notHunter hhunter rfl
  | some hunter =>
    dsimp only
    cases hcommand : hunter.commands.lookup command.commandId with
    | some previous => exact .replayed hhunter hcommand
    | none =>
      dsimp only
      by_cases hlimit : maximumProcessedCommands ≤ hunter.commands.len
      · rw [if_pos hlimit]
        exact .overLimit hhunter hcommand hlimit rfl
      rw [if_neg hlimit]
      have hroom : hunter.commands.len < maximumProcessedCommands := by omega
      cases hrefusal : s.fireRefusal hunter command now with
      | some reason => exact .refused hhunter hcommand hroom rfl rfl
      | none =>
        have hready := ready_of_fireRefusal hrefusal
        dsimp only [CasualRoundState.shoot]
        cases hdiscovers : s.discovers playerId command.aimSlot now with
        | none => exact .shot hhunter hcommand hroom rfl rfl hready rfl rfl
        | some d =>
          obtain ⟨hhunters, hreload⟩ := discovered_hunters s d
          exact .shot hhunter hcommand hroom rfl rfl hready hhunters hreload

end

/-! ### The ledger of a hunter -/

/-- The command id and the instant of a shot that the player fired and that was accepted, not the result
of an earlier one sent again. -/
def shotOf (playerId : String) (t : Transition CasualRoundState RoundCall) : Option (String × Time) :=
  match t.label with
  | .advance _ => none
  | .handleFire shooter command now =>
    if shooter = playerId ∧ storedResult t.pre shooter command.commandId = none ∧
        (t.pre.handleFire shooter command now).2.1.accepted = true then
      some (command.commandId, now)
    else none

/-- The accepted shots of a player in a run. -/
def shotsOf (playerId : String) (ts : List (Transition CasualRoundState RoundCall)) :
    List (String × Time) :=
  ts.filterMap (shotOf playerId)

structure HunterLedger (round : RoundSnapshot) (shots : List (String × Time))
    (hunter : CasualHunterState) : Prop where
  shells : hunter.shellsRemaining + shots.length = round.shellLimit
  apart : shots.IsChain fun shot next => shot.2 + round.reloadDurationMs * 1000000 ≤ next.2
  reload : ∀ shot ∈ shots.getLast?,
    hunter.reloadUntil = shot.2 + round.reloadDurationMs * 1000000
  stored : ∀ shot ∈ shots, hunter.commands.lookup shot.1 ≠ none
  once : (shots.map Prod.fst).Nodup
  room : hunter.commands.len ≤ maximumProcessedCommands

namespace HunterLedger

variable {round : RoundSnapshot} {shots : List (String × Time)} {hunter : CasualHunterState}
  {result : HunterFireResult} {now : Time}

theorem init (round : RoundSnapshot) : HunterLedger round [] ⟨round.shellLimit, 0, ∅⟩ where
  shells := by simp
  apart := List.isChain_nil
  reload _ h := by cases h
  stored _ h := by cases h
  once := List.nodup_nil
  room := Nat.zero_le _

/-- A fresh command id makes room for its result, and the others stay. -/
theorem lookup_insert_ne_none {commandId : String}
    (h : hunter.commands.lookup commandId ≠ none) (result : HunterFireResult) :
    (hunter.commands.insert result.commandId result).lookup commandId ≠ none := by
  by_cases hid : commandId = result.commandId
  · rw [hid, AList.lookup_insert]
    exact Option.some_ne_none result
  · rwa [AList.lookup_insert_ne hid]

theorem len_insert_le (hfresh : hunter.commands.lookup result.commandId = none)
    (hroom : hunter.commands.len < maximumProcessedCommands) :
    GoMap.len (hunter.commands.insert result.commandId result) ≤ maximumProcessedCommands := by
  rw [GoMap.len_insert (AList.lookup_eq_none.mp hfresh)]
  omega

theorem refused (h : HunterLedger round shots hunter)
    (hfresh : hunter.commands.lookup result.commandId = none)
    (hroom : hunter.commands.len < maximumProcessedCommands) :
    HunterLedger round shots
      { hunter with commands := hunter.commands.insert result.commandId result } where
  shells := h.shells
  apart := h.apart
  reload := h.reload
  stored shot hshot := lookup_insert_ne_none (h.stored shot hshot) result
  once := h.once
  room := len_insert_le hfresh hroom

/-- **A shot enters the ledger**: it costs a shell, comes after the reload and has a new command id. -/
theorem shot (h : HunterLedger round shots hunter)
    (hfresh : hunter.commands.lookup result.commandId = none)
    (hroom : hunter.commands.len < maximumProcessedCommands) (hready : hunter.reloadUntil ≤ now) :
    HunterLedger round (shots ++ [(result.commandId, now)])
      { hunter with
        shellsRemaining := hunter.shellsRemaining - 1
        reloadUntil := now + round.reloadDurationMs * 1000000
        commands := hunter.commands.insert result.commandId result } where
  shells := by
    have hshells := h.shells
    rw [List.length_append, List.length_singleton]
    push_cast
    omega
  apart := by
    refine List.isChain_append.mpr ⟨h.apart, List.isChain_singleton _, fun last hlast next hnext => ?_⟩
    rw [List.head?_cons, Option.mem_some_iff] at hnext
    rw [← hnext, ← h.reload last hlast]
    exact hready
  reload last hlast := by
    rw [List.getLast?_append, List.getLast?_singleton, Option.some_or, Option.mem_some_iff] at hlast
    rw [← hlast]
  stored other hother := by
    rcases List.mem_append.mp hother with hother | hother
    · exact lookup_insert_ne_none (h.stored other hother) result
    · rw [List.mem_singleton.mp hother]
      show (hunter.commands.insert result.commandId result).lookup result.commandId ≠ none
      rw [AList.lookup_insert]
      exact Option.some_ne_none result
  once := by
    rw [List.map_append, List.map_singleton]
    refine List.Nodup.append h.once (List.nodup_singleton _) ?_
    rw [List.disjoint_singleton]
    intro hmem
    obtain ⟨other, hother, hid⟩ := List.mem_map.mp hmem
    exact h.stored other hother (hid ▸ hfresh)
  room := len_insert_le hfresh hroom

end HunterLedger

/-! ### The ledgers of a round -/

/-- Every hunter of the state has a ledger of the shots so far. -/
structure Ledgers (round : RoundSnapshot) (ts : List (Transition CasualRoundState RoundCall))
    (s : CasualRoundState) : Prop where
  reload : s.reloadDuration = round.reloadDurationMs * 1000000
  hunter : ∀ playerId hunter, s.hunters.lookup playerId = some hunter →
    HunterLedger round (shotsOf playerId ts) hunter

theorem seatAssignment_hunter {round : RoundSnapshot} {a : RoundRoleAssignment}
    {s s' : CasualRoundState} (hok : seatAssignment round s a = .ok s') {playerId : String}
    {hunter : CasualHunterState} (hhunter : s'.hunters.lookup playerId = some hunter) :
    s.hunters.lookup playerId = some hunter ∨ hunter = ⟨round.shellLimit, 0, ∅⟩ := by
  obtain ⟨-, -, ⟨-, rfl⟩ | ⟨-, -, -, rfl⟩⟩ := seatAssignment_eq_ok.mp hok
  · rcases GoMap.lookup_insert_cases hhunter with ⟨-, hnew⟩ | hold
    · exact .inr hnew
    · exact .inl hold
  · exact .inl hhunter

theorem seatAssignments_hunter {round : RoundSnapshot} {playerId : String}
    {hunter : CasualHunterState} :
    ∀ {assignments : List RoundRoleAssignment} {s s' : CasualRoundState},
      seatAssignments round s assignments = .ok s' → s'.hunters.lookup playerId = some hunter →
      s.hunters.lookup playerId = some hunter ∨ hunter = ⟨round.shellLimit, 0, ∅⟩
  | [], s, s', hok, hhunter => by
    obtain rfl := Except.ok.inj hok
    exact .inl hhunter
  | a :: assignments, s, s', hok, hhunter => by
    obtain ⟨mid, hseat, hok⟩ := seatAssignments_cons.mp hok
    rcases seatAssignments_hunter hok hhunter with hmid | hnew
    · exact seatAssignment_hunter hseat hmid
    · exact .inr hnew

namespace Ledgers

variable {round : RoundSnapshot} {ts : List (Transition CasualRoundState RoundCall)}
  {s m m' : CasualRoundState} {call : RoundCall}

theorem init (hnew : newCasualRoundState round = .ok s) : Ledgers round [] s := by
  rw [newCasualRoundState] at hnew
  by_cases hmode : round.id = "" ∨ round.mode ≠ "casual"
  · rw [if_pos hmode] at hnew
    cases hnew
  rw [if_neg hmode] at hnew
  by_cases hrules : round.hidingDurationSeconds ≤ 0 ∨ round.huntingDurationSeconds ≤ 0 ∨
      round.shellLimit ≤ 0 ∨ round.reloadDurationMs ≤ 0
  · rw [if_pos hrules] at hnew
    cases hnew
  rw [if_neg hrules] at hnew
  cases hseats : seatAssignments round (unseatedRound round) round.roleAssignments with
  | error e =>
    rw [hseats] at hnew
    cases hnew
  | ok seated =>
    rw [hseats] at hnew
    dsimp only at hnew
    by_cases hplayers : seated.hunters.len = 0 ∨ seated.hiderBySlot.len = 0
    · rw [if_pos hplayers] at hnew
      cases hnew
    rw [if_neg hplayers] at hnew
    obtain rfl := Except.ok.inj hnew
    refine ⟨?_, fun playerId hunter hhunter => ?_⟩
    · rw [seatAssignments_frame hseats]
      rfl
    · rcases seatAssignments_hunter hseats hhunter with hold | hnew
      · have hnone : (unseatedRound round).hunters.lookup playerId = none := AList.lookup_empty _
        rw [hnone] at hold
        cases hold
      · rw [hnew]
        exact .init round

/-- A step after which the shooter's ledger holds and the other hunters are as before. -/
theorem snoc (h : Ledgers round ts m) (hreload : m'.reloadDuration = m.reloadDuration)
    (hhunter : ∀ playerId hunter, m'.hunters.lookup playerId = some hunter →
      (m.hunters.lookup playerId = some hunter ∧ shotOf playerId ⟨m, call, m'⟩ = none) ∨
      ∃ old, m.hunters.lookup playerId = some old ∧ ∀ shots, HunterLedger round shots old →
        HunterLedger round (shots ++ (shotOf playerId ⟨m, call, m'⟩).toList) hunter) :
    Ledgers round (ts ++ [⟨m, call, m'⟩]) m' where
  reload := hreload.trans h.reload
  hunter playerId hunter hlookup := by
    have hshots : shotsOf playerId (ts ++ [⟨m, call, m'⟩]) =
        shotsOf playerId ts ++ (shotOf playerId ⟨m, call, m'⟩).toList := by
      rw [shotsOf, List.filterMap_append, List.filterMap_cons, List.filterMap_nil]
      cases shotOf playerId ⟨m, call, m'⟩ <;> rfl
    rw [hshots]
    rcases hhunter playerId hunter hlookup with ⟨hsame, hnone⟩ | ⟨old, hold, hledger⟩
    · rw [hnone, Option.toList_none, List.append_nil]
      exact h.hunter playerId hunter hsame
    · exact hledger _ (h.hunter playerId old hold)

theorem step_advance (h : Ledgers round ts m) (now : Time) :
    Ledgers round (ts ++ [⟨m, .advance now, (m.advance now).1⟩]) (m.advance now).1 := by
  have hframe := CasualRoundState.advance_frame now _ m le_rfl
  refine h.snoc (by rw [hframe]) fun playerId hunter hhunter => .inl ⟨?_, rfl⟩
  rw [hframe] at hhunter
  exact hhunter

theorem step_handleFire (h : Ledgers round ts m) (playerId : String) (command : HunterFireCommand)
    (now : Time) :
    Ledgers round (ts ++ [⟨m, .handleFire playerId command now, (m.handleFire playerId command now).1⟩])
      (m.handleFire playerId command now).1 := by
  have hshot : ∀ other, shotOf other
      ⟨m, .handleFire playerId command now, (m.handleFire playerId command now).1⟩ =
      if playerId = other ∧ storedResult m playerId command.commandId = none ∧
        (m.handleFire playerId command now).2.1.accepted = true then
          some (command.commandId, now) else none := fun _ => rfl
  have hfired := handleFire_fired m playerId command now
  generalize hout : m.handleFire playerId command now = out at hfired hshot
  -- nobody's ledger changes when the command changes nothing
  have hsame {result : HunterFireResult} {discovery : Option RoundDiscoverySnapshot}
      (heq : out = (m, result, discovery))
      (hnot : ¬ (storedResult m playerId command.commandId = none ∧ result.accepted = true)) :
      Ledgers round (ts ++ [⟨m, .handleFire playerId command now, out.1⟩]) out.1 := by
    rw [heq] at hshot ⊢
    refine h.snoc rfl fun other hunter hhunter => .inl ⟨hhunter, ?_⟩
    rw [hshot, if_neg fun hcond => hnot hcond.2]
  cases hfired with
  | notHunter hhunter haccepted =>
    exact hsame rfl fun hcond => Bool.false_ne_true (haccepted.symm.trans hcond.2)
  | @replayed hunter previous hhunter hstored =>
    refine hsame rfl fun hcond => ?_
    rw [storedResult, hhunter, Option.bind_some, hstored] at hcond
    cases hcond.1
  | overLimit hhunter hfresh hlimit haccepted =>
    exact hsame rfl fun hcond => Bool.false_ne_true (haccepted.symm.trans hcond.2)
  | @refused hunter result hhunter hfresh hroom hid haccepted =>
    refine h.snoc rfl fun other hunter' hlookup => ?_
    have hnone : shotOf other ⟨m, .handleFire playerId command now,
        m.recordResult playerId hunter result⟩ = none := by
      rw [hshot, if_neg fun hcond => Bool.false_ne_true (haccepted.symm.trans hcond.2.2)]
    by_cases hother : other = playerId
    · rw [hother] at hlookup hnone ⊢
      have hrecorded : (m.recordResult playerId hunter result).hunters.lookup playerId = some
          { hunter with commands := hunter.commands.insert result.commandId result } :=
        AList.lookup_insert _
      rw [hrecorded] at hlookup
      obtain rfl := Option.some.inj hlookup
      refine .inr ⟨hunter, hhunter, fun shots hledger => ?_⟩
      rw [hnone, Option.toList_none, List.append_nil]
      exact hledger.refused (hid ▸ hfresh) hroom
    · have hkept : (m.recordResult playerId hunter result).hunters.lookup other =
          m.hunters.lookup other := AList.lookup_insert_ne hother
      rw [hkept] at hlookup
      exact .inl ⟨hlookup, hnone⟩
  | @shot hunter result aimed discovery hhunter hfresh hroom hid haccepted hready hhunters hreload =>
    set shooter : CasualHunterState := { hunter with
      shellsRemaining := hunter.shellsRemaining - 1, reloadUntil := now + m.reloadDuration } with hshooter
    refine h.snoc hreload fun other hunter' hlookup => ?_
    by_cases hother : other = playerId
    · rw [hother] at hlookup ⊢
      have hrecorded : (aimed.recordResult playerId shooter result).hunters.lookup playerId = some
          { shooter with commands := hunter.commands.insert result.commandId result } :=
        AList.lookup_insert _
      rw [hrecorded] at hlookup
      obtain rfl := Option.some.inj hlookup
      have hstored : storedResult m playerId command.commandId = none := by
        rw [storedResult, hhunter, Option.bind_some, hfresh]
      refine .inr ⟨hunter, hhunter, fun shots hledger => ?_⟩
      rw [hshot, if_pos ⟨rfl, hstored, haccepted⟩, Option.toList_some, ← hid]
      have hledger' := hledger.shot (hid ▸ hfresh) hroom hready
      rw [hshooter, h.reload]
      exact hledger'
    · have hkept : (aimed.recordResult playerId shooter result).hunters.lookup other =
          m.hunters.lookup other := by
        show (aimed.hunters.insert playerId _).lookup other = _
        rw [AList.lookup_insert_ne hother, hhunters]
      rw [hkept] at hlookup
      refine .inl ⟨hlookup, ?_⟩
      rw [hshot, if_neg fun hcond => hother hcond.1.symm]

/-- **The ledgers of a run.** -/
theorem run {s₀ : CasualRoundState} (hnew : newCasualRoundState round = .ok s₀)
    (hrun : Run RoundStep s₀ ts s) : Ledgers round ts s := by
  induction hrun with
  | refl => exact init hnew
  | @snoc m s' ts call _ hstep ih =>
    cases hstep
    cases call with
    | advance now => exact ih.step_advance now
    | handleFire playerId command now => exact ih.step_handleFire playerId command now

end Ledgers

/-! ### Stored results stay -/

section

variable {s s' : CasualRoundState} {playerId commandId : String} {previous : HunterFireResult}

theorem storedResult_recordResult {shooterId : String} {hunter shooter : CasualHunterState}
    {result : HunterFireResult} (hhunter : s.hunters.lookup shooterId = some hunter)
    (hcommands : shooter.commands = hunter.commands)
    (hfresh : hunter.commands.lookup result.commandId = none)
    (h : storedResult s playerId commandId = some previous) :
    storedResult (s.recordResult shooterId shooter result) playerId commandId = some previous := by
  rw [storedResult] at h ⊢
  by_cases hplayer : playerId = shooterId
  · rw [hplayer, hhunter, Option.bind_some] at h
    have hne : commandId ≠ result.commandId := by
      rintro rfl
      rw [hfresh] at h
      cases h
    show ((s.hunters.insert shooterId _).lookup playerId).bind _ = _
    rw [hplayer, AList.lookup_insert, Option.bind_some, hcommands, AList.lookup_insert_ne hne, h]
  · show ((s.hunters.insert shooterId _).lookup playerId).bind _ = _
    rw [AList.lookup_insert_ne hplayer, h]

theorem storedResult_step {call : RoundCall} (h : storedResult s playerId commandId = some previous)
    (hstep : RoundStep s call s') : storedResult s' playerId commandId = some previous := by
  cases hstep
  cases call with
  | advance now =>
    show storedResult (s.advance now).1 playerId commandId = some previous
    rw [CasualRoundState.advance_frame now _ s le_rfl]
    exact h
  | handleFire shooterId command now =>
    show storedResult (s.handleFire shooterId command now).1 playerId commandId = some previous
    have hfired := handleFire_fired s shooterId command now
    generalize s.handleFire shooterId command now = out at hfired
    cases hfired with
    | notHunter => exact h
    | replayed => exact h
    | overLimit => exact h
    | refused hhunter hfresh hroom hid => exact storedResult_recordResult hhunter rfl (hid ▸ hfresh) h
    | @shot hunter result aimed discovery hhunter hfresh hroom hid haccepted hready hhunters =>
      have haimed : aimed.hunters.lookup shooterId = some hunter := by
        rw [hhunters, hhunter]
      refine storedResult_recordResult haimed rfl (hid ▸ hfresh) ?_
      rw [storedResult, hhunters]
      exact h

theorem storedResult_run {ts : List (Transition CasualRoundState RoundCall)}
    (h : storedResult s playerId commandId = some previous) (hrun : Run RoundStep s ts s') :
    storedResult s' playerId commandId = some previous :=
  (hrun.invariant' (fun _ _ _ hm hl => storedResult_step hm hl) h).1

/-- A command id whose result is stored returns it and does nothing. -/
theorem handleFire_of_stored {command : HunterFireCommand}
    (h : storedResult s playerId command.commandId = some previous) (now : Time) :
    s.handleFire playerId command now = (s, previous, none) := by
  rw [storedResult] at h
  cases hhunter : s.hunters.lookup playerId with
  | none =>
    rw [hhunter] at h
    cases h
  | some hunter =>
    rw [hhunter, Option.bind_some] at h
    rw [CasualRoundState.handleFire]
    simp only [hhunter, h]

/-- A rejected shot leaves the state, or adds its result to the commands of the hunter. -/
theorem handleFire_of_rejected {command : HunterFireCommand} {now : Time}
    (h : (s.handleFire playerId command now).2.1.accepted = false) :
    (s.handleFire playerId command now).1 = s ∨
      ∃ hunter, s.hunters.lookup playerId = some hunter ∧
        hunter.commands.lookup command.commandId = none ∧
        (s.handleFire playerId command now).1 = { s with
          hunters := s.hunters.insert playerId { hunter with
            commands := hunter.commands.insert command.commandId
              (s.handleFire playerId command now).2.1 } } := by
  have hfired := handleFire_fired s playerId command now
  generalize s.handleFire playerId command now = out at hfired h
  cases hfired with
  | notHunter => exact .inl rfl
  | replayed => exact .inl rfl
  | overLimit => exact .inl rfl
  | @refused hunter result hhunter hfresh hroom hid =>
    refine .inr ⟨hunter, hhunter, hfresh, ?_⟩
    rw [← hid]
    rfl
  | shot hhunter hfresh hroom hid haccepted =>
    rw [h] at haccepted
    cases haccepted

end

/-- **Shots are accounted for.**  In every state of a round: the shells and the accepted shots of a hunter
make up the shell limit, the shots are a reload apart and have different command ids, and there are no
more than 256 results; a rejected shot adds its result and nothing else; and a result that was stored at
any earlier state answers its command id, whenever and however it is sent again. -/
theorem shots_are_accounted {round : RoundSnapshot} {s₀ m s : CasualRoundState}
    {us vs : List (Transition CasualRoundState RoundCall)}
    (hnew : newCasualRoundState round = .ok s₀) (hrun : Run RoundStep s₀ us m)
    (hrun' : Run RoundStep m vs s) :
    (∀ playerId hunter, s.hunters.lookup playerId = some hunter →
      hunter.shellsRemaining + (shotsOf playerId (us ++ vs)).length = round.shellLimit ∧
      ((shotsOf playerId (us ++ vs)).IsChain fun shot next =>
        shot.2 + round.reloadDurationMs * 1000000 ≤ next.2) ∧
      ((shotsOf playerId (us ++ vs)).map Prod.fst).Nodup ∧
      hunter.commands.len ≤ maximumProcessedCommands) ∧
    (∀ playerId command now, (s.handleFire playerId command now).2.1.accepted = false →
      (s.handleFire playerId command now).1 = s ∨
        ∃ hunter, s.hunters.lookup playerId = some hunter ∧
          hunter.commands.lookup command.commandId = none ∧
          (s.handleFire playerId command now).1 = { s with
            hunters := s.hunters.insert playerId { hunter with
              commands := hunter.commands.insert command.commandId
                (s.handleFire playerId command now).2.1 } }) ∧
    ∀ playerId commandId previous, storedResult m playerId commandId = some previous →
      storedResult s playerId commandId = some previous ∧
        ∀ aimSlot now, s.handleFire playerId ⟨commandId, aimSlot⟩ now = (s, previous, none) := by
  refine ⟨fun playerId hunter hhunter => ?_, fun playerId command now h => handleFire_of_rejected h,
    fun playerId commandId previous hstored => ?_⟩
  · have h := (Ledgers.run hnew (hrun.append hrun')).hunter playerId hunter hhunter
    exact ⟨h.shells, h.apart, h.once, h.room⟩
  · have hlater := storedResult_run hstored hrun'
    exact ⟨hlater, fun aimSlot now => handleFire_of_stored hlater now⟩

/-- The hunter of three players after the first hit. -/
theorem shots_are_accounted_three_players :
    ∃ m s previous, playRound threePlayerRound firstHit = .ok m ∧
      storedResult m "01890f3e-0000-7000-8000-0000000000a1" "shot-1" = some previous ∧
      previous.accepted = true ∧ (m.advance 5000000000).1 = s ∧
      s.handleFire "01890f3e-0000-7000-8000-0000000000a1" ⟨"shot-1", 2⟩ 6000000000 =
        (s, previous, none) := by
  have hfacts : ∃ m previous, playRound threePlayerRound firstHit = .ok m ∧
      storedResult m "01890f3e-0000-7000-8000-0000000000a1" "shot-1" = some previous ∧
      previous.accepted = true := ⟨_, _, rfl, rfl, rfl⟩
  obtain ⟨m, previous, hplay, hstored, haccepted⟩ := hfacts
  obtain ⟨s₀, us, hnew, hrun⟩ := playRound_run hplay
  have htimeout : RoundStep m (.advance 5000000000) (m.advance 5000000000).1 := rfl
  have hanswer := (shots_are_accounted hnew hrun (.single htimeout)).2.2 _ _ _ hstored
  exact ⟨m, _, previous, hplay, hstored, haccepted, rfl, hanswer.2 2 6000000000⟩

end HiveChameleon.Nakama
