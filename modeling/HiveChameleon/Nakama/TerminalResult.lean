import HiveChameleon.Gateway.Protocol
import HiveChameleon.Lib.Table
import HiveChameleon.Nakama.CasualRound
import Mathlib.Data.List.Sort

/-!
# Nakama.TerminalResult — `validateTerminalResult`

The terminal result that a match hands over and the checks it must pass before anything is
written, from `runtime/nakama/terminal_result.go`.  An error is the text the code returns.
-/

namespace HiveChameleon.Nakama

open Gateway Lib

def maximumCanonicalResultBytes : ℕ := 1024 * 1024

inductive ParticipantOutcome where
  | hunterWin | hunterLoss | hiderSurvived | hiderFound | hiderConverted | other (text : String)
deriving DecidableEq, Repr

structure TerminalParticipant where
  id : String
  playerId : String
  hunterVolunteer : Bool
  initialRole : PlayerRole
  finalRole : PlayerRole
  characterForm : String
  sizePreset : String
  outcome : ParticipantOutcome
  survivalDurationMs : Option ℤ
  finalScore : String
  scoreBreakdown : List UInt8
  foundOrConvertedAt : Option Time
  reconnected : Bool
deriving DecidableEq

structure TerminalDiscovery where
  id : String
  hunterPlayerId : String
  hiderPlayerId : String
  sequence : ℤ
  occurredAt : Time
  causedInfectionConversion : Bool
deriving DecidableEq

structure TerminalLike where
  id : String
  voterPlayerId : String
  targetHiderPlayerId : String
  createdAt : Time
deriving DecidableEq

structure TerminalResultCommit where
  roundId : String
  revisionId : String
  publicationRequestId : String
  endedAt : Time
  winningSide : WinningSide
  resultSchemaVersion : String
  scoringRuleVersion : String
  canonicalCompleteResult : List UInt8
  canonicalResultObjectKey : String
  participants : List TerminalParticipant
  discoveries : List TerminalDiscovery
  likes : List TerminalLike
deriving DecidableEq

/-- `{}` -/
def emptyJsonObject : List UInt8 := [0x7b, 0x7d]

/-- What Go's library and PostgreSQL make of byte strings. -/
structure GoRuntime where
  /-- `json.Valid` -/
  jsonValid : List UInt8 → Bool
  /-- The lowercase hexadecimal text of `sha256.Sum256`. -/
  sha256Hex : List UInt8 → String
  /-- Whether `::jsonb` accepts the text. -/
  jsonb : List UInt8 → Bool
  jsonValid_object : jsonValid emptyJsonObject = true

/-! ### Texts -/

def isHexDigit (c : Char) : Bool := isDigit c || ('a' ≤ c && c ≤ 'f') || ('A' ≤ c && c ≤ 'F')

/-- Whether `canonicalUUIDV7ToCompact` accepts a text. -/
def canonicalUUIDV7 (value : String) : Bool :=
  let chars := value.toList
  let digits := chars.filter fun c => c != '-'
  chars.length == 36 && chars[8]? == some '-' && chars[13]? == some '-' && chars[18]? == some '-' &&
    chars[23]? == some '-' && chars.map Char.toLower == chars &&
    digits.length == 32 && digits.all isHexDigit && digits[12]? == some '7' &&
    digits[16]?.any fun c => c == '8' || c == '9' || c == 'a' || c == 'b'

def controlledVersion (value : String) : Bool :=
  0 < value.utf8ByteSize && value.utf8ByteSize ≤ 32 &&
    value.toList.head?.all (fun c => isLowerLetter c || isDigit c) &&
    value.toList.all fun c => isLowerLetter c || isDigit c || c == '.' || c == '_' || c == '-'

/-- `^(0|[1-9][0-9]*)\.[0-9]{4}$` -/
def fixedScorePattern (value : String) : Bool :=
  match value.toList.splitOn '.' with
  | [whole, fraction] =>
    (whole == ['0'] || whole.head?.any (fun c => isDigit c && c != '0')) && whole.all isDigit &&
      fraction.length == 4 && fraction.all isDigit
  | _ => false

def validPlayerRole (value : PlayerRole) : Bool := value = .hider || value = .hunter

def validParticipantOutcome : ParticipantOutcome → Bool
  | .other _ => false
  | _ => true

/-! ### The loops of `validateTerminalResult` -/

def validateParticipantRoleOutcome (participant : TerminalParticipant) (winningSide : WinningSide) :
    Except String Unit := do
  require (¬ (participant.initialRole = .hunter ∧ participant.finalRole ≠ .hunter))
    "terminal participant cannot transition from hunter to hider"
  match participant.outcome with
  | .hunterWin =>
    require (participant.initialRole = .hunter ∧ participant.finalRole = .hunter ∧
      winningSide = .hunters) "terminal hunter-win outcome is inconsistent"
  | .hunterLoss =>
    require (participant.initialRole = .hunter ∧ participant.finalRole = .hunter ∧
      winningSide ≠ .hunters) "terminal hunter-loss outcome is inconsistent"
  | .hiderSurvived =>
    require (participant.initialRole = .hider ∧ participant.finalRole = .hider ∧
      winningSide = .hiders) "terminal hider-survived outcome is inconsistent"
  | .hiderFound => do
    require (participant.initialRole = .hider ∧ participant.finalRole = .hider ∧
      winningSide ≠ .hiders) "terminal hider-found outcome is inconsistent"
    require (participant.foundOrConvertedAt ≠ none)
      "terminal hider-found outcome requires its timestamp"
  | .hiderConverted => do
    require (participant.initialRole = .hider ∧ participant.finalRole = .hunter ∧
      winningSide ≠ .hiders) "terminal hider-converted outcome is inconsistent"
    require (participant.foundOrConvertedAt ≠ none)
      "terminal hider-converted outcome requires its timestamp"
  | .other _ => .ok ()

def isWinner (participant : TerminalParticipant) : Bool :=
  participant.outcome = .hunterWin || participant.outcome = .hiderSurvived

variable (G : GoRuntime)

/-- One iteration of the loop over the participants; `seen` are the ones before. -/
def validateParticipant (winningSide : WinningSide) (seen : List TerminalParticipant)
    (participant : TerminalParticipant) : Except String Unit := do
  require (canonicalUUIDV7 participant.id) "terminal participant ID is invalid"
  require (canonicalUUIDV7 participant.playerId) "terminal participant player ID is invalid"
  require (participant.id ∉ seen.map (·.id)) "terminal participant IDs must be unique"
  require (participant.playerId ∉ seen.map (·.playerId))
    "terminal participant players must be unique"
  require (validPlayerRole participant.initialRole ∧ validPlayerRole participant.finalRole)
    "terminal participant role is invalid"
  require (validParticipantOutcome participant.outcome ∧ fixedScorePattern participant.finalScore)
    "terminal participant outcome or score is invalid"
  validateParticipantRoleOutcome participant winningSide
  require (∀ duration ∈ participant.survivalDurationMs, 0 ≤ duration)
    "terminal participant survival duration is invalid"
  require (participant.scoreBreakdown = [] ∨ G.jsonValid participant.scoreBreakdown)
    "terminal participant score breakdown is invalid"

/-- The loop over the participants; it returns how many of them won. -/
def validateParticipants (winningSide : WinningSide) :
    List TerminalParticipant → ℕ → List TerminalParticipant → Except String ℕ
  | _, winnerCount, [] => .ok winnerCount
  | seen, winnerCount, participant :: participants => do
    validateParticipant G winningSide seen participant
    validateParticipants winningSide (seen ++ [participant])
      (if isWinner participant then winnerCount + 1 else winnerCount) participants

/-- `players[playerID]` -/
def findPlayer (participants : List TerminalParticipant) (playerId : String) :
    Option TerminalParticipant :=
  participants.find? fun participant => participant.playerId = playerId

def validateDiscovery (participants : List TerminalParticipant) (seen : List TerminalDiscovery)
    (discovery : TerminalDiscovery) : Except String Unit := do
  require (canonicalUUIDV7 discovery.id) "terminal discovery ID is invalid"
  require (∃ hunter ∈ findPlayer participants discovery.hunterPlayerId, hunter.finalRole = .hunter)
    "terminal discovery hunter is not a participant"
  require (∃ hider ∈ findPlayer participants discovery.hiderPlayerId, hider.initialRole = .hider)
    "terminal discovery hider is not a participant"
  require (discovery.hunterPlayerId ≠ discovery.hiderPlayerId ∧ 0 < discovery.sequence ∧
    discovery.occurredAt ≠ 0) "terminal discovery is invalid"
  require (discovery.hiderPlayerId ∉ seen.map (·.hiderPlayerId))
    "terminal result can discover each hider once"

def validateDiscoveries (participants : List TerminalParticipant) :
    List TerminalDiscovery → List TerminalDiscovery → Except String Unit
  | _, [] => .ok ()
  | seen, discovery :: discoveries => do
    validateDiscovery participants seen discovery
    validateDiscoveries participants (seen ++ [discovery]) discoveries

def validateLike (participants : List TerminalParticipant) (seen : List TerminalLike)
    (like : TerminalLike) : Except String Unit := do
  require (canonicalUUIDV7 like.id) "terminal like ID is invalid"
  require ((findPlayer participants like.voterPlayerId).isSome)
    "terminal like voter is not a participant"
  require (∃ target ∈ findPlayer participants like.targetHiderPlayerId, target.initialRole = .hider)
    "terminal like target is not a participant"
  require (like.voterPlayerId ≠ like.targetHiderPlayerId ∧ like.createdAt ≠ 0)
    "terminal like is invalid"
  require (like.voterPlayerId ∉ seen.map (·.voterPlayerId))
    "terminal result can record one like per voter"

def validateLikes (participants : List TerminalParticipant) :
    List TerminalLike → List TerminalLike → Except String Unit
  | _, [] => .ok ()
  | seen, like :: likes => do
    validateLike participants seen like
    validateLikes participants (seen ++ [like]) likes

/-- The sequences, sorted, count from one. -/
def contiguousSequences (discoveries : List TerminalDiscovery) : Prop :=
  (discoveries.map (·.sequence)).insertionSort (· ≤ ·) =
    (List.range' 1 discoveries.length).map Nat.cast

instance (discoveries : List TerminalDiscovery) : Decidable (contiguousSequences discoveries) :=
  inferInstanceAs (Decidable (_ = _))

/-- `validateTerminalResult`; the three identifiers are looked at in the order of a Go map, which
only decides the text of the error. -/
def validateTerminalResult (input : TerminalResultCommit) : Except String String := do
  require (canonicalUUIDV7 input.roundId) "invalid round ID"
  require (canonicalUUIDV7 input.revisionId) "invalid revision ID"
  require (canonicalUUIDV7 input.publicationRequestId) "invalid publication request ID"
  require (input.endedAt ≠ 0) "terminal result ended-at timestamp is required"
  require (input.winningSide = .hiders ∨ input.winningSide = .hunters ∨ input.winningSide = .none)
    "terminal result winning side is invalid"
  require (controlledVersion input.resultSchemaVersion ∧ controlledVersion input.scoringRuleVersion)
    "terminal result schema or scoring version is invalid"
  require (input.canonicalCompleteResult ≠ [] ∧
    input.canonicalCompleteResult.length ≤ maximumCanonicalResultBytes)
    "canonical complete result size is invalid"
  require (G.jsonValid input.canonicalCompleteResult) "canonical complete result is not valid JSON"
  require (input.canonicalResultObjectKey ≠ "" ∧
    input.canonicalResultObjectKey.utf8ByteSize ≤ 1024) "canonical result object key is invalid"
  require (2 ≤ input.participants.length ∧ input.participants.length ≤ 10)
    "terminal result must contain 2..10 participants"
  let winnerCount ← validateParticipants G input.winningSide [] 0 input.participants
  require (¬ (input.winningSide = .none ∧ winnerCount ≠ 0) ∧
    ¬ (input.winningSide ≠ .none ∧ winnerCount = 0))
    "terminal participant outcomes do not match the winning side"
  validateDiscoveries input.participants [] input.discoveries
  require (contiguousSequences input.discoveries)
    "terminal discovery sequence must be contiguous"
  validateLikes input.participants [] input.likes
  pure (G.sha256Hex input.canonicalCompleteResult)

/-! ### What a valid terminal result is -/

/-- What the loop asks of one participant, whatever came before. -/
structure ParticipantValid (winningSide : WinningSide) (p : TerminalParticipant) : Prop where
  id : canonicalUUIDV7 p.id = true
  playerId : canonicalUUIDV7 p.playerId = true
  roles : validPlayerRole p.initialRole = true ∧ validPlayerRole p.finalRole = true
  outcome : validParticipantOutcome p.outcome = true ∧ fixedScorePattern p.finalScore = true
  roleOutcome : validateParticipantRoleOutcome p winningSide = .ok ()
  survival : ∀ duration ∈ p.survivalDurationMs, 0 ≤ duration
  breakdown : p.scoreBreakdown = [] ∨ G.jsonValid p.scoreBreakdown = true

/-- What the loop asks of one discovery. -/
structure DiscoveryValid (participants : List TerminalParticipant) (d : TerminalDiscovery) :
    Prop where
  id : canonicalUUIDV7 d.id = true
  hunter : ∃ hunter ∈ findPlayer participants d.hunterPlayerId, hunter.finalRole = .hunter
  hider : ∃ hider ∈ findPlayer participants d.hiderPlayerId, hider.initialRole = .hider
  values : d.hunterPlayerId ≠ d.hiderPlayerId ∧ 0 < d.sequence ∧ d.occurredAt ≠ 0

/-- What the loop asks of one like. -/
structure LikeValid (participants : List TerminalParticipant) (l : TerminalLike) : Prop where
  id : canonicalUUIDV7 l.id = true
  voter : (findPlayer participants l.voterPlayerId).isSome = true
  target : ∃ target ∈ findPlayer participants l.targetHiderPlayerId, target.initialRole = .hider
  values : l.voterPlayerId ≠ l.targetHiderPlayerId ∧ l.createdAt ≠ 0

/-- The terminal results that pass. -/
structure ValidTerminalResult (input : TerminalResultCommit) : Prop where
  roundId : canonicalUUIDV7 input.roundId = true
  revisionId : canonicalUUIDV7 input.revisionId = true
  publicationRequestId : canonicalUUIDV7 input.publicationRequestId = true
  endedAt : input.endedAt ≠ 0
  winningSide : input.winningSide = .hiders ∨ input.winningSide = .hunters ∨
    input.winningSide = .none
  versions : controlledVersion input.resultSchemaVersion = true ∧
    controlledVersion input.scoringRuleVersion = true
  size : input.canonicalCompleteResult ≠ [] ∧
    input.canonicalCompleteResult.length ≤ maximumCanonicalResultBytes
  json : G.jsonValid input.canonicalCompleteResult = true
  objectKey : input.canonicalResultObjectKey ≠ "" ∧
    input.canonicalResultObjectKey.utf8ByteSize ≤ 1024
  count : 2 ≤ input.participants.length ∧ input.participants.length ≤ 10
  participantIds : (input.participants.map (·.id)).Nodup
  players : (input.participants.map (·.playerId)).Nodup
  participant : ∀ p ∈ input.participants, ParticipantValid G input.winningSide p
  winners : input.winningSide = .none ↔ ∀ p ∈ input.participants, isWinner p = false
  hiders : (input.discoveries.map (·.hiderPlayerId)).Nodup
  discovery : ∀ d ∈ input.discoveries, DiscoveryValid input.participants d
  sequences : contiguousSequences input.discoveries
  voters : (input.likes.map (·.voterPlayerId)).Nodup
  like : ∀ l ∈ input.likes, LikeValid input.participants l

section Spec

variable {G}

theorem validateParticipant_eq_ok {winningSide : WinningSide} {seen : List TerminalParticipant}
    {p : TerminalParticipant} :
    validateParticipant G winningSide seen p = .ok () ↔
      ParticipantValid G winningSide p ∧ p.id ∉ seen.map (·.id) ∧
        p.playerId ∉ seen.map (·.playerId) := by
  simp only [validateParticipant, bind_eq_ok, exists_unit, require_eq_ok]
  constructor
  · rintro ⟨hid, hplayer, hnewId, hnewPlayer, hroles, houtcome, hroleOutcome, hsurvival, hjson⟩
    exact ⟨⟨hid, hplayer, hroles, houtcome, hroleOutcome, hsurvival, hjson⟩, hnewId, hnewPlayer⟩
  · rintro ⟨⟨hid, hplayer, hroles, houtcome, hroleOutcome, hsurvival, hjson⟩, hnewId, hnewPlayer⟩
    exact ⟨hid, hplayer, hnewId, hnewPlayer, hroles, houtcome, hroleOutcome, hsurvival, hjson⟩

theorem fresh_and_nodup_iff {α β : Type} (key : α → β) (seen : List α) (a : α) (as : List α) :
    key a ∉ seen.map key ∧ (as.map key).Nodup ∧ (∀ b ∈ as, key b ∉ (seen ++ [a]).map key) ↔
      ((a :: as).map key).Nodup ∧ ∀ b ∈ a :: as, key b ∉ seen.map key := by
  simp only [List.map_append, List.map_cons, List.map_nil, List.mem_append, List.not_mem_nil,
    or_false, not_or, List.nodup_cons, List.mem_cons, forall_eq_or_imp, List.mem_map, not_exists, not_and]
  constructor
  · rintro ⟨hfresh, hnodup, hall⟩
    exact ⟨⟨fun b hb => (hall b hb).2, hnodup⟩, hfresh, fun b hb => (hall b hb).1⟩
  · rintro ⟨⟨hne, hnodup⟩, hfresh, hall⟩
    exact ⟨hfresh, hnodup, fun b hb => ⟨hall b hb, hne b hb⟩⟩

theorem validateParticipants_eq_ok {winningSide : WinningSide} {winners : ℕ} :
    ∀ {participants seen : List TerminalParticipant} {winnerCount : ℕ},
      validateParticipants G winningSide seen winnerCount participants = .ok winners ↔
        ((participants.map (·.id)).Nodup ∧ ∀ p ∈ participants, p.id ∉ seen.map (·.id)) ∧
        ((participants.map (·.playerId)).Nodup ∧
          ∀ p ∈ participants, p.playerId ∉ seen.map (·.playerId)) ∧
        (∀ p ∈ participants, ParticipantValid G winningSide p) ∧
        winners = winnerCount + participants.countP isWinner
  | [], seen, winnerCount => by
    simp [validateParticipants, eq_comm]
  | p :: ps, seen, winnerCount => by
    rw [validateParticipants, ← fresh_and_nodup_iff, ← fresh_and_nodup_iff]
    simp only [bind_eq_ok, exists_unit, validateParticipant_eq_ok, validateParticipants_eq_ok,
      List.forall_mem_cons, List.countP_cons]
    have hcount : (if isWinner p = true then winnerCount + 1 else winnerCount) +
        List.countP isWinner ps =
        winnerCount + (List.countP isWinner ps + if isWinner p = true then 1 else 0) := by
      split <;> omega
    rw [hcount]
    tauto

theorem validateDiscoveries_eq_ok {participants : List TerminalParticipant} {x : Unit} :
    ∀ {discoveries seen : List TerminalDiscovery},
      validateDiscoveries participants seen discoveries = .ok x ↔
        ((discoveries.map (·.hiderPlayerId)).Nodup ∧
          ∀ d ∈ discoveries, d.hiderPlayerId ∉ seen.map (·.hiderPlayerId)) ∧
        ∀ d ∈ discoveries, DiscoveryValid participants d
  | [], seen => by simp [validateDiscoveries]
  | d :: ds, seen => by
    rw [validateDiscoveries, ← fresh_and_nodup_iff]
    simp only [bind_eq_ok, exists_unit, validateDiscoveries_eq_ok, validateDiscovery, require_eq_ok,
      List.forall_mem_cons]
    constructor
    · rintro ⟨⟨hid, hhunter, hhider, hvalues, hnew⟩, hrest, hall⟩
      exact ⟨⟨hnew, hrest⟩, ⟨hid, hhunter, hhider, hvalues⟩, hall⟩
    · rintro ⟨⟨hnew, hrest⟩, ⟨hid, hhunter, hhider, hvalues⟩, hall⟩
      exact ⟨⟨hid, hhunter, hhider, hvalues, hnew⟩, hrest, hall⟩

theorem validateLikes_eq_ok {participants : List TerminalParticipant} {x : Unit} :
    ∀ {likes seen : List TerminalLike},
      validateLikes participants seen likes = .ok x ↔
        ((likes.map (·.voterPlayerId)).Nodup ∧
          ∀ l ∈ likes, l.voterPlayerId ∉ seen.map (·.voterPlayerId)) ∧
        ∀ l ∈ likes, LikeValid participants l
  | [], seen => by simp [validateLikes]
  | l :: ls, seen => by
    rw [validateLikes, ← fresh_and_nodup_iff]
    simp only [bind_eq_ok, exists_unit, validateLikes_eq_ok, validateLike, require_eq_ok,
      List.forall_mem_cons]
    constructor
    · rintro ⟨⟨hid, hvoter, htarget, hvalues, hnew⟩, hrest, hall⟩
      exact ⟨⟨hnew, hrest⟩, ⟨hid, hvoter, htarget, hvalues⟩, hall⟩
    · rintro ⟨⟨hnew, hrest⟩, ⟨hid, hvoter, htarget, hvalues⟩, hall⟩
      exact ⟨⟨hid, hvoter, htarget, hvalues, hnew⟩, hrest, hall⟩

/-- **The validator accepts the valid results** and returns the hash of their canonical form. -/
theorem validateTerminalResult_eq_ok {input : TerminalResultCommit} {sha : String} :
    validateTerminalResult G input = .ok sha ↔
      ValidTerminalResult G input ∧ sha = G.sha256Hex input.canonicalCompleteResult := by
  have hwinners : (¬ (input.winningSide = .none ∧ input.participants.countP isWinner ≠ 0) ∧
      ¬ (input.winningSide ≠ .none ∧ input.participants.countP isWinner = 0)) ↔
      (input.winningSide = .none ↔ ∀ p ∈ input.participants, isWinner p = false) := by
    have hzero : input.participants.countP isWinner = 0 ↔
        ∀ p ∈ input.participants, isWinner p = false := by
      simp [List.countP_eq_zero]
    rw [← hzero]
    tauto
  simp only [validateTerminalResult, bind_eq_ok, exists_unit, require_eq_ok,
    validateParticipants_eq_ok, validateDiscoveries_eq_ok, validateLikes_eq_ok, pure_eq_ok,
    List.map_nil, List.not_mem_nil, not_false_eq_true, implies_true, and_true]
  constructor
  · rintro ⟨h1, h2, h3, h4, h5, h6, h7, h8, h9, h10, winners, ⟨h11, h12, h13, rfl⟩, h14, ⟨h15, h16⟩,
      h17, ⟨h18, h19⟩, rfl⟩
    rw [Nat.zero_add, hwinners] at h14
    exact ⟨⟨h1, h2, h3, h4, h5, h6, h7, h8, h9, h10, h11, h12, h13, h14, h15, h16, h17, h18, h19⟩,
      rfl⟩
  · rintro ⟨h, rfl⟩
    refine ⟨h.roundId, h.revisionId, h.publicationRequestId, h.endedAt, h.winningSide, h.versions,
      h.size, h.json, h.objectKey, h.count, _, ⟨h.participantIds, h.players, h.participant, rfl⟩, ?_,
      ⟨h.hiders, h.discovery⟩, h.sequences, ⟨h.voters, h.like⟩, rfl⟩
    rw [Nat.zero_add, hwinners]
    exact h.winners

end Spec

end HiveChameleon.Nakama
