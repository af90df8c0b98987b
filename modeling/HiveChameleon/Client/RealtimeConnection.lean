import HiveChameleon.Lib.Run
import HiveChameleon.Nakama.ConfigurationPatch

/-!
# Client.RealtimeConnection — the lobby that the Unity client shows

`NakamaRealtimeConnection` publishes a lobby from two channels: the responses of its RPCs and the match
states of its socket.  The channels have no order between them, and the shared publish step looks at no
version, so the lobby that is shown is as new as the order of arrival makes it.
-/

namespace HiveChameleon.Client

open Lib
open Nakama.Lobby (LobbySnapshot)

/-! ### Payloads -/

structure RoundSnapshot where
  id : String
  status : String
  targetSlotCount : ℤ
deriving DecidableEq, Repr

structure RoundRoleAssignment where
  roundId : String
  playerId : String
  role : String
deriving DecidableEq, Repr

structure RoundDiscoverySnapshot where
  roundId : String
  hunterPlayerId : String
  hiderPlayerId : String
  sequence : ℤ
  aimSlot : ℤ
deriving DecidableEq, Repr

structure RoundPlayerState where
  roundId : String
  playerId : String
  role : String
  status : String
  shellsRemaining : ℤ
deriving DecidableEq, Repr

structure HunterFireResult where
  roundId : String
  reason : String
  shellsRemaining : ℤ
deriving DecidableEq, Repr

structure LobbyRpcResponse where
  matchId : String
  lobby : Option LobbySnapshot
  round : Option RoundSnapshot
deriving DecidableEq, Repr

/-- What `JsonUtility.FromJson` makes of one payload, class by class; none where it finds no object. -/
structure MatchPayload where
  lobby : Option LobbySnapshot
  roleAssignment : Option RoundRoleAssignment
  round : Option RoundSnapshot
  discovery : Option RoundDiscoverySnapshot
  playerState : Option RoundPlayerState
  fireResult : Option HunterFireResult
deriving DecidableEq, Repr

structure MatchState where
  opCode : ℕ
  state : Option MatchPayload
deriving DecidableEq, Repr

def lobbyStateOpcode : ℕ := 1
def roundRoleAssignedOpcode : ℕ := 2
def roundPhaseChangedOpcode : ℕ := 3
def roundDiscoveryOpcode : ℕ := 4
def roundPlayerStateOpcode : ℕ := 5
def hunterFireResultOpcode : ℕ := 6

/-- `string.IsNullOrWhiteSpace`; a missing string is an empty one, and white space is what it is to
the server. -/
def isNullOrWhiteSpace (text : String) : Bool := text.toList.all Nakama.Lobby.isSpace

/-! ### The connection -/

inductive RealtimeConnectionState where
  | disconnected | connecting | connected | closing | faulted
deriving DecidableEq, Repr

/-- `NakamaRealtimeConnection`; `session` stands for the client and its session, which come and go
together, and `socket` for the socket with its handlers. -/
structure NakamaRealtimeConnection where
  state : RealtimeConnectionState
  session : Bool
  socket : Bool
  matchId : Option String
  currentLobby : Option LobbySnapshot
  currentRound : Option RoundSnapshot
  currentRoleAssignment : Option RoundRoleAssignment
  currentRoundPlayerState : Option RoundPlayerState
  lastDiscovery : Option RoundDiscoverySnapshot
  lastFireResult : Option HunterFireResult
deriving DecidableEq, Repr

namespace NakamaRealtimeConnection

def publishLobby (lobby : LobbySnapshot) (c : NakamaRealtimeConnection) : NakamaRealtimeConnection :=
  { c with currentLobby := some lobby }

def publishRound (round : RoundSnapshot) (c : NakamaRealtimeConnection) : NakamaRealtimeConnection :=
  if ∃ current ∈ c.currentRound, current.id = round.id then { c with currentRound := some round }
  else
    { c with
      currentRound := some round
      currentRoundPlayerState := none
      lastDiscovery := none
      lastFireResult := none }

def requireConnected (c : NakamaRealtimeConnection) : Except String Unit :=
  require (c.state = .connected ∧ c.session = true ∧ c.socket = true)
    "Nakama realtime connection is not ready."

def requireCurrentLobby (c : NakamaRealtimeConnection) : Except String LobbySnapshot := do
  c.requireConnected
  match c.currentLobby with
  | none => .error "Join or create a lobby first."
  | some lobby =>
    if isNullOrWhiteSpace lobby.id then .error "Join or create a lobby first." else .ok lobby

/-- A player's role, as two handlers check it. -/
def validRole (role : String) : Prop := role = "hunter" ∨ role = "hider"

instance (role : String) : Decidable (validRole role) := inferInstanceAs (Decidable (_ ∨ _))

def validAssignment (assignment : RoundRoleAssignment) : Prop :=
  isNullOrWhiteSpace assignment.roundId = false ∧ isNullOrWhiteSpace assignment.playerId = false ∧
    validRole assignment.role

def validDiscovery (discovery : RoundDiscoverySnapshot) : Prop :=
  isNullOrWhiteSpace discovery.roundId = false ∧ isNullOrWhiteSpace discovery.hunterPlayerId = false ∧
    isNullOrWhiteSpace discovery.hiderPlayerId = false ∧ 1 ≤ discovery.sequence ∧ 1 ≤ discovery.aimSlot

def validPlayerState (playerState : RoundPlayerState) : Prop :=
  isNullOrWhiteSpace playerState.roundId = false ∧ isNullOrWhiteSpace playerState.playerId = false ∧
    validRole playerState.role ∧ (playerState.status = "active" ∨ playerState.status = "found") ∧
    0 ≤ playerState.shellsRemaining

def validFireResult (fireResult : HunterFireResult) : Prop :=
  isNullOrWhiteSpace fireResult.roundId = false ∧ isNullOrWhiteSpace fireResult.reason = false ∧
    0 ≤ fireResult.shellsRemaining

instance (assignment : RoundRoleAssignment) : Decidable (validAssignment assignment) :=
  inferInstanceAs (Decidable (_ ∧ _))

instance (discovery : RoundDiscoverySnapshot) : Decidable (validDiscovery discovery) :=
  inferInstanceAs (Decidable (_ ∧ _))

instance (playerState : RoundPlayerState) : Decidable (validPlayerState playerState) :=
  inferInstanceAs (Decidable (_ ∧ _))

instance (fireResult : HunterFireResult) : Decidable (validFireResult fireResult) :=
  inferInstanceAs (Decidable (_ ∧ _))

/-- `HandleMatchState`; what is thrown in it is logged, and the state stays as it is. -/
def handleMatchState (m : MatchState) (c : NakamaRealtimeConnection) : NakamaRealtimeConnection :=
  match m.state with
  | none => c
  | some payload =>
    if m.opCode = lobbyStateOpcode then
      match payload.lobby with
      | none => c
      | some lobby => if isNullOrWhiteSpace lobby.id then c else c.publishLobby lobby
    else if m.opCode = roundRoleAssignedOpcode then
      match payload.roleAssignment with
      | none => c
      | some assignment =>
        if validAssignment assignment then { c with currentRoleAssignment := some assignment } else c
    else if m.opCode = roundPhaseChangedOpcode then
      match payload.round with
      | none => c
      | some round => if isNullOrWhiteSpace round.id then c else c.publishRound round
    else if m.opCode = roundDiscoveryOpcode then
      match payload.discovery with
      | none => c
      | some discovery => if validDiscovery discovery then { c with lastDiscovery := some discovery } else c
    else if m.opCode = roundPlayerStateOpcode then
      match payload.playerState with
      | none => c
      | some playerState =>
        if validPlayerState playerState then { c with currentRoundPlayerState := some playerState }
        else c
    else if m.opCode = hunterFireResultOpcode then
      match payload.fireResult with
      | none => c
      | some fireResult =>
        if validFireResult fireResult then { c with lastFireResult := some fireResult } else c
    else c

/-- What `CloseSocketIgnoringErrorsAsync` leaves, after its `await`. -/
def cleared (c : NakamaRealtimeConnection) : NakamaRealtimeConnection :=
  { c with
    session := false
    matchId := none
    currentLobby := none
    currentRound := none
    currentRoleAssignment := none
    currentRoundPlayerState := none
    lastDiscovery := none
    lastFireResult := none }

end NakamaRealtimeConnection

/-! ### The RPCs of a lobby -/

inductive LobbyRpc where
  | createLobby
  | joinLobby (lobbyId : String)
  | updateConfiguration
  | startLobby
  | nominateHunter
  | leaveLobby
deriving DecidableEq, Repr

namespace LobbyRpc

def id : LobbyRpc → String
  | createLobby => "lobby.create"
  | joinLobby _ => "lobby.join"
  | updateConfiguration => "lobby.update_configuration"
  | startLobby => "lobby.start"
  | nominateHunter => "lobby.nominate_hunter"
  | leaveLobby => "lobby.leave"

/-- The lobby and the version that a command names. -/
structure Command where
  lobbyId : Option String
  expectedLobbyVersion : Option ℤ
deriving DecidableEq, Repr

/-- The command for the lobby that is shown, with its version. -/
def versioned (c : NakamaRealtimeConnection) : Except String Command := do
  let lobby ← c.requireCurrentLobby
  pure ⟨some lobby.id, some lobby.rowVersion⟩

/-- What is sent, once the connection has been asked for. -/
def command (c : NakamaRealtimeConnection) : LobbyRpc → Except String Command
  | createLobby => do
    c.requireConnected
    pure ⟨none, none⟩
  | joinLobby lobbyId => do
    c.requireConnected
    pure ⟨some lobbyId, none⟩
  | updateConfiguration => versioned c
  | startLobby => versioned c
  | nominateHunter => versioned c
  | leaveLobby => do
    let lobby ← c.requireCurrentLobby
    pure ⟨some lobby.id, none⟩

/-- `CallLobbyRpcAsync` after its `await`, on what `JsonUtility.FromJson` makes of the response. -/
def receive (rpc : LobbyRpc) (response : Option LobbyRpcResponse) (c : NakamaRealtimeConnection) :
    Except String (LobbyRpcResponse × NakamaRealtimeConnection) :=
  match response with
  | none => .error (rpc.id ++ " returned an invalid lobby response.")
  | some response =>
    match response.lobby with
    | none => .error (rpc.id ++ " returned an invalid lobby response.")
    | some lobby =>
      if isNullOrWhiteSpace lobby.id then .error (rpc.id ++ " returned an invalid lobby response.")
      else
        let c := c.publishLobby lobby
        match response.round with
        | none => .ok (response, c)
        | some round =>
          if isNullOrWhiteSpace round.id then .ok (response, c) else .ok (response, c.publishRound round)

/-- Where a call stands. -/
inductive Call where
  | idle
  | sent (rpc : LobbyRpc) (command : Command)
  | answered (rpc : LobbyRpc) (response : Option LobbyRpcResponse)
  | joining (matchId : String)
  | returned
  | failed (message : String)
deriving DecidableEq, Repr

/-- `JoinAuthoritativeLobbyAsync`, up to its `await`; the socket may be gone by then. -/
def joinMatch (response : LobbyRpcResponse) (c : NakamaRealtimeConnection) : Call :=
  if isNullOrWhiteSpace response.matchId then .failed "Lobby response has no authoritative match ID."
  else if c.socket then .joining response.matchId
  else .failed "Object reference not set to an instance of an object"

/-- What the method of a call does with the response: leaving forgets the round, creating and joining go
on to the match. -/
def finish (rpc : LobbyRpc) (response : LobbyRpcResponse) (c : NakamaRealtimeConnection) :
    Call × NakamaRealtimeConnection :=
  match rpc with
  | createLobby => (joinMatch response c, c)
  | joinLobby _ => (joinMatch response c, c)
  | leaveLobby => (.returned, { c with
      matchId := none
      currentRound := none
      currentRoleAssignment := none
      currentRoundPlayerState := none
      lastDiscovery := none
      lastFireResult := none })
  | updateConfiguration => (.returned, c)
  | startLobby => (.returned, c)
  | nominateHunter => (.returned, c)

end LobbyRpc

/-! ### The client, the server and what is between them -/

/-- The server's lobby versions, the match states on their way, the calls, the `await`s of opening and
of closing (with the state that each goes on to, if it sets one), and the connection. -/
structure RealtimeSystem (ι : Type) where
  version : String → ℤ
  messages : List MatchState
  call : ι → LobbyRpc.Call
  opening : ℕ
  closing : List (Option RealtimeConnectionState)
  client : NakamaRealtimeConnection

inductive RealtimeLabel (ι : Type) where
  | connect (expired : Bool)
  | connected
  | connectFailed
  | close
  | closeDone (k : ℕ)
  | handleConnected
  | handleClosed
  | handleError
  | commit (lobbyId : String)
  | send (i : ι) (rpc : LobbyRpc) (cancelled : Bool)
  | answer (i : ι) (response : Option LobbyRpcResponse)
  | fail (i : ι) (message : String)
  | receive (i : ι) (cancelled : Bool)
  | join (i : ι) (cancelled : Bool)
  | broadcast (m : MatchState)
  | deliver (k : ℕ)

namespace RealtimeSystem

variable {ι : Type} [DecidableEq ι]

def set (S : RealtimeSystem ι) (i : ι) (call : LobbyRpc.Call) : RealtimeSystem ι :=
  { S with call := Function.update S.call i call }

/-- The lobby of a response that is stamped with the version that the server has. -/
def StampedResponse (S : RealtimeSystem ι) (response : Option LobbyRpcResponse) : Prop :=
  ∀ r ∈ response, ∀ lobby ∈ r.lobby, lobby.rowVersion = S.version lobby.id

def StampedState (S : RealtimeSystem ι) (m : MatchState) : Prop :=
  m.opCode = lobbyStateOpcode → ∀ payload ∈ m.state, ∀ lobby ∈ payload.lobby,
    lobby.rowVersion = S.version lobby.id

instance (S : RealtimeSystem ι) (response : Option LobbyRpcResponse) :
    Decidable (S.StampedResponse response) :=
  inferInstanceAs (Decidable (∀ _ ∈ _, _))

instance (S : RealtimeSystem ι) (m : MatchState) : Decidable (S.StampedState m) :=
  inferInstanceAs (Decidable (_ → _))

/-- `HandleConnected`, `HandleClosed` and `HandleError` are attached to the socket. -/
def handled (S : RealtimeSystem ι) (client : NakamaRealtimeConnection) : Option (RealtimeSystem ι) :=
  if S.client.socket then some { S with client := client } else none

/-- The socket goes, and its handlers with it; what `CloseSocketIgnoringErrorsAsync` forgets, it forgets
after its `await`. -/
def detach (S : RealtimeSystem ι) (state : RealtimeConnectionState) (after : Option RealtimeConnectionState) :
    RealtimeSystem ι :=
  { S with
    closing := S.closing ++ [after]
    client := { S.client with state := state, socket := false } }

/-- The continuation of a call on its response; a cancelled call throws before it looks at it. -/
def received (S : RealtimeSystem ι) (i : ι) (rpc : LobbyRpc) (response : Option LobbyRpcResponse)
    (cancelled : Bool) : RealtimeSystem ι :=
  if cancelled then S.set i (.failed "The operation was canceled.")
  else
    match rpc.receive response S.client with
    | .error message => S.set i (.failed message)
    | .ok (response, client) =>
      { S with
        call := Function.update S.call i (rpc.finish response client).1
        client := (rpc.finish response client).2 }

/-- One step; `none` when the label does not apply. -/
def exec (S : RealtimeSystem ι) : RealtimeLabel ι → Option (RealtimeSystem ι)
  | .connect expired =>
    if S.client.state = .disconnected then
      if expired then some { S with client := { S.client with state := .faulted, session := true } }
      else some { S with
        opening := S.opening + 1
        client := { S.client with state := .connecting, session := true, socket := true } }
    else none
  | .connected =>
    if 0 < S.opening then
      some { S with opening := S.opening - 1, client := { S.client with state := .connected } }
    else none
  | .connectFailed =>
    if 0 < S.opening then
      let S := { S with opening := S.opening - 1 }
      if S.client.socket then some (S.detach .faulted none)
      else some { S with client := { S.client with state := .faulted } }
    else none
  | .close =>
    if S.client.socket then some (S.detach .closing (some .disconnected))
    else some { S with client := { S.client with state := .disconnected } }
  | .closeDone k =>
    match S.closing[k]? with
    | none => none
    | some after => some { S with
        closing := S.closing.eraseIdx k
        client := { S.client.cleared with state := after.getD S.client.state } }
  | .handleConnected => S.handled { S.client with state := .connected }
  | .handleClosed => S.handled { S.client with state := .disconnected, matchId := none }
  | .handleError => S.handled { S.client with state := .faulted }
  | .commit lobbyId =>
    some { S with version := Function.update S.version lobbyId (S.version lobbyId + 1) }
  | .send i rpc cancelled =>
    match S.call i with
    | .idle =>
      match rpc.command S.client with
      | .error message => some (S.set i (.failed message))
      | .ok command =>
        if cancelled then some (S.set i (.failed "The operation was canceled."))
        else some (S.set i (.sent rpc command))
    | _ => none
  | .answer i response =>
    match S.call i with
    | .sent rpc _ => if S.StampedResponse response then some (S.set i (.answered rpc response)) else none
    | _ => none
  | .receive i cancelled =>
    match S.call i with
    | .answered rpc response => some (S.received i rpc response cancelled)
    | _ => none
  | .fail i message =>
    match S.call i with
    | .sent _ _ => some (S.set i (.failed message))
    | .joining _ => some (S.set i (.failed message))
    | _ => none
  | .join i cancelled =>
    match S.call i with
    | .joining matchId => some { S with
        call := Function.update S.call i <|
          if cancelled then .failed "The operation was canceled." else .returned
        client := { S.client with matchId := some matchId } }
    | _ => none
  | .broadcast m => if S.StampedState m then some { S with messages := S.messages ++ [m] } else none
  | .deliver k =>
    match S.messages[k]? with
    | none => none
    | some m => some { S with
        messages := S.messages.eraseIdx k
        client := if S.client.socket then S.client.handleMatchState m else S.client }

end RealtimeSystem

def RealtimeStep {ι : Type} [DecidableEq ι] (S : RealtimeSystem ι) (l : RealtimeLabel ι)
    (S' : RealtimeSystem ι) : Prop :=
  S.exec l = some S'

/-- A new connection, whatever versions the server has. -/
def RealtimeSystem.start (ι : Type) (version : String → ℤ) : RealtimeSystem ι where
  version := version
  messages := []
  call := fun _ => .idle
  opening := 0
  closing := []
  client := ⟨.disconnected, false, false, none, none, none, none, none, none, none⟩

/-! ### What a step publishes -/

/-- A lobby that has passed the check of both channels. -/
def accepted (lobby : Option LobbySnapshot) : Option LobbySnapshot :=
  lobby.filter fun lobby => isNullOrWhiteSpace lobby.id = false

def MatchState.lobby (m : MatchState) : Option LobbySnapshot :=
  if m.opCode = lobbyStateOpcode then accepted (m.state.bind (·.lobby)) else none

/-- **The lobby that arrives** in a step, on either channel. -/
def RealtimeSystem.published {ι : Type} (S : RealtimeSystem ι) : RealtimeLabel ι → Option LobbySnapshot
  | .receive i cancelled =>
    match S.call i with
    | .answered _ response => if cancelled then none else accepted (response.bind (·.lobby))
    | _ => none
  | .deliver k => if S.client.socket then (S.messages[k]?).bind (·.lobby) else none
  | _ => none

section Publishing

variable {c c' : NakamaRealtimeConnection} {lobby : LobbySnapshot}

theorem accepted_some :
    accepted (some lobby) = if isNullOrWhiteSpace lobby.id then none else some lobby := by
  rw [accepted, Option.filter_some]
  by_cases hblank : isNullOrWhiteSpace lobby.id = true
  · rw [hblank]
    rfl
  · rw [Bool.not_eq_true] at hblank
    rw [hblank]
    rfl

@[simp] theorem publishRound_currentLobby (round : RoundSnapshot) (c : NakamaRealtimeConnection) :
    (c.publishRound round).currentLobby = c.currentLobby := by
  unfold NakamaRealtimeConnection.publishRound
  split
  · rfl
  · rfl

theorem handleMatchState_currentLobby (m : MatchState) (c : NakamaRealtimeConnection) :
    (c.handleMatchState m).currentLobby = m.lobby.or c.currentLobby := by
  unfold NakamaRealtimeConnection.handleMatchState MatchState.lobby
  cases hstate : m.state with
  | none => simp [accepted]
  | some payload =>
    by_cases hlobby : m.opCode = lobbyStateOpcode
    · simp only [if_pos hlobby, Option.bind_some]
      cases hpayload : payload.lobby with
      | none => rfl
      | some lobby =>
        simp only [accepted_some]
        split
        · rfl
        · rfl
    · simp only [if_neg hlobby, Option.none_or]
      -- no other class of payload touches the lobby
      repeat' split
      all_goals first | rfl | exact publishRound_currentLobby _ _

theorem receive_cases (rpc : LobbyRpc) (response : Option LobbyRpcResponse) (c : NakamaRealtimeConnection) :
    (accepted (response.bind (·.lobby)) = none ∧ ∃ message, rpc.receive response c = .error message) ∨
      ∃ lobby r c', accepted (response.bind (·.lobby)) = some lobby ∧
        rpc.receive response c = .ok (r, c') ∧ c'.currentLobby = some lobby := by
  unfold LobbyRpc.receive
  cases response with
  | none => exact .inl ⟨rfl, _, rfl⟩
  | some r =>
    simp only [Option.bind_some]
    cases hlobby : r.lobby with
    | none => exact .inl ⟨rfl, _, rfl⟩
    | some lobby =>
      simp only [accepted_some]
      by_cases hblank : isNullOrWhiteSpace lobby.id = true
      · simp only [if_pos hblank]
        exact .inl ⟨trivial, _, rfl⟩
      · simp only [if_neg hblank]
        right
        cases hround : r.round with
        | none => exact ⟨lobby, r, _, rfl, rfl, rfl⟩
        | some round =>
          by_cases hnone : isNullOrWhiteSpace round.id = true
          · simp only [if_pos hnone]
            exact ⟨lobby, r, _, rfl, rfl, rfl⟩
          · simp only [if_neg hnone]
            exact ⟨lobby, r, _, rfl, rfl, publishRound_currentLobby _ _⟩

theorem finish_currentLobby (rpc : LobbyRpc) (response : LobbyRpcResponse) (c : NakamaRealtimeConnection) :
    (rpc.finish response c).2.currentLobby = c.currentLobby := by
  cases rpc <;> rfl

end Publishing

section Steps

variable {ι : Type} {S S' : RealtimeSystem ι} {l : RealtimeLabel ι}

/-- The lobby that arrives is shown, whatever was shown before; if none arrives, the lobby stays or is
forgotten. -/
def ShowsArrival (S : RealtimeSystem ι) (l : RealtimeLabel ι) (S' : RealtimeSystem ι) : Prop :=
  (∃ lobby, S.published l = some lobby ∧ S'.client.currentLobby = some lobby) ∨
    S.published l = none ∧ (S'.client.currentLobby = S.client.currentLobby ∨ S'.client.currentLobby = none)

theorem ShowsArrival.same (hpublished : S.published l = none)
    (hlobby : S'.client.currentLobby = S.client.currentLobby) : ShowsArrival S l S' :=
  .inr ⟨hpublished, .inl hlobby⟩

theorem delivered_shows {k : ℕ} {m : MatchState} (hm : S.messages[k]? = some m) :
    ShowsArrival S (.deliver k) { S with
      messages := S.messages.eraseIdx k
      client := if S.client.socket then S.client.handleMatchState m else S.client } := by
  by_cases hsocket : S.client.socket = true
  · have hpublished : S.published (.deliver k) = m.lobby := by
      simp only [RealtimeSystem.published, if_pos hsocket, hm, Option.bind_some]
    have hshown := handleMatchState_currentLobby m S.client
    simp only [ShowsArrival, if_pos hsocket, hpublished, hshown]
    cases hlobby : m.lobby with
    | none => exact .inr ⟨rfl, .inl rfl⟩
    | some lobby => exact .inl ⟨lobby, rfl, rfl⟩
  · right
    simp only [if_neg hsocket]
    exact ⟨by simp only [RealtimeSystem.published, if_neg hsocket], .inl trivial⟩

theorem handled_shows {client : NakamaRealtimeConnection} (h : S.handled client = some S')
    (hpublished : S.published l = none) (hlobby : client.currentLobby = S.client.currentLobby) :
    ShowsArrival S l S' := by
  rw [RealtimeSystem.handled, Option.ite_none_right_eq_some, Option.some.injEq] at h
  obtain ⟨-, rfl⟩ := h
  exact .same hpublished hlobby

variable [DecidableEq ι]

theorem received_shows {i : ι} {rpc : LobbyRpc} {response : Option LobbyRpcResponse} {cancelled : Bool}
    (hcall : S.call i = .answered rpc response) :
    ShowsArrival S (.receive i cancelled) (S.received i rpc response cancelled) := by
  unfold RealtimeSystem.received
  by_cases hcancelled : cancelled = true
  · rw [if_pos hcancelled]
    exact .same (by simp only [RealtimeSystem.published, hcall, if_pos hcancelled]) rfl
  · rw [if_neg hcancelled]
    have hpublished : S.published (.receive i cancelled) = accepted (response.bind (·.lobby)) := by
      simp only [RealtimeSystem.published, hcall, if_neg hcancelled]
    rcases receive_cases rpc response S.client with ⟨hnone, message, hthrown⟩ |
      ⟨lobby, r, c', hsome, hreceived, hlobby⟩
    · rw [hthrown]
      exact .same (hpublished.trans hnone) rfl
    · rw [hreceived]
      exact .inl ⟨lobby, hpublished.trans hsome, (finish_currentLobby rpc r c').trans hlobby⟩

/-- **What a step can do** to the lobby that is shown. -/
theorem step_shows (h : RealtimeStep S l S') : ShowsArrival S l S' := by
  unfold RealtimeStep at h
  cases l with
  | connect expired =>
    simp only [RealtimeSystem.exec, Option.ite_none_right_eq_some] at h
    obtain ⟨-, h⟩ := h
    split at h
    · cases h
      exact .same rfl rfl
    · cases h
      exact .same rfl rfl
  | connected =>
    simp only [RealtimeSystem.exec, Option.ite_none_right_eq_some, Option.some.injEq] at h
    obtain ⟨-, rfl⟩ := h
    exact .same rfl rfl
  | connectFailed =>
    simp only [RealtimeSystem.exec, Option.ite_none_right_eq_some] at h
    obtain ⟨-, h⟩ := h
    split at h
    · cases h
      exact .same rfl rfl
    · cases h
      exact .same rfl rfl
  | close =>
    simp only [RealtimeSystem.exec] at h
    split at h
    · cases h
      exact .same rfl rfl
    · cases h
      exact .same rfl rfl
  | closeDone k =>
    simp only [RealtimeSystem.exec] at h
    split at h
    · cases h
    · cases h
      exact .inr ⟨rfl, .inr rfl⟩
  | handleConnected => exact handled_shows h rfl rfl
  | handleClosed => exact handled_shows h rfl rfl
  | handleError => exact handled_shows h rfl rfl
  | commit lobbyId =>
    simp only [RealtimeSystem.exec, Option.some.injEq] at h
    subst h
    exact .same rfl rfl
  | send i rpc cancelled =>
    simp only [RealtimeSystem.exec] at h
    split at h
    · split at h
      · cases h
        exact .same rfl rfl
      · split at h
        · cases h
          exact .same rfl rfl
        · cases h
          exact .same rfl rfl
    · cases h
  | answer i response =>
    simp only [RealtimeSystem.exec] at h
    split at h
    · simp only [Option.ite_none_right_eq_some, Option.some.injEq] at h
      obtain ⟨-, rfl⟩ := h
      exact .same rfl rfl
    · cases h
  | receive i cancelled =>
    simp only [RealtimeSystem.exec] at h
    split at h
    · rename_i rpc response hcall
      rw [← Option.some.inj h]
      exact received_shows hcall
    · cases h
  | fail i message =>
    simp only [RealtimeSystem.exec] at h
    split at h
    · cases h
      exact .same rfl rfl
    · cases h
      exact .same rfl rfl
    · cases h
  | join i cancelled =>
    simp only [RealtimeSystem.exec] at h
    split at h
    · cases h
      exact .same rfl rfl
    · cases h
  | broadcast m =>
    simp only [RealtimeSystem.exec, Option.ite_none_right_eq_some, Option.some.injEq] at h
    obtain ⟨-, rfl⟩ := h
    exact .same rfl rfl
  | deliver k =>
    simp only [RealtimeSystem.exec] at h
    split at h
    · cases h
    · rename_i m hm
      rw [← Option.some.inj h]
      exact delivered_shows hm

end Steps

/-! ### Runs -/

/-- A snapshot does not fall behind one of the same lobby. -/
def NotBehind (older newer : LobbySnapshot) : Prop :=
  older.id = newer.id → older.rowVersion ≤ newer.rowVersion

instance (older newer : LobbySnapshot) : Decidable (NotBehind older newer) :=
  inferInstanceAs (Decidable (_ → _))

section Runs

variable {ι : Type} {version : String → ℤ} {S : RealtimeSystem ι}
  {ts : List (Transition (RealtimeSystem ι) (RealtimeLabel ι))}

/-- The lobbies that arrived, in the order in which they did. -/
def arrivals (ts : List (Transition (RealtimeSystem ι) (RealtimeLabel ι))) : List LobbySnapshot :=
  ts.filterMap fun t => t.pre.published t.label

/-- What a state shows does not fall behind what another showed. -/
def Follows (shown next : RealtimeSystem ι) : Prop :=
  ∀ lobby ∈ shown.client.currentLobby, ∀ lobby' ∈ next.client.currentLobby, NotBehind lobby lobby'

/-- **The law**: the version that is shown of a lobby never decreases. -/
def NeverDecreases (ts : List (Transition (RealtimeSystem ι) (RealtimeLabel ι))) : Prop :=
  ts.Pairwise fun t t' => Follows t.post t'.post

theorem follows_self (S : RealtimeSystem ι) : Follows S S := by
  intro lobby hlobby lobby' hlobby' _
  have hsame := hlobby.symm.trans hlobby'
  rw [Option.some.inj hsame]

variable [DecidableEq ι]

theorem shown_mem_arrivals (h : Run RealtimeStep (RealtimeSystem.start ι version) ts S) :
    (∀ lobby ∈ S.client.currentLobby, lobby ∈ arrivals ts) ∧
      ∀ t ∈ ts, ∀ lobby ∈ t.post.client.currentLobby, lobby ∈ arrivals ts := by
  induction h with
  | refl =>
    refine ⟨fun lobby hlobby => ?_, fun t ht => ?_⟩
    · cases hlobby
    · cases ht
  | @snoc m S ts l _ hstep ih =>
    have harrivals : arrivals (ts ++ [⟨m, l, S⟩]) = arrivals ts ++ arrivals [⟨m, l, S⟩] :=
      List.filterMap_append
    have hlast : ∀ lobby ∈ S.client.currentLobby, lobby ∈ arrivals (ts ++ [⟨m, l, S⟩]) := by
      intro lobby hlobby
      rw [harrivals, List.mem_append]
      rcases step_shows hstep with ⟨arrived, hpublished, hshown⟩ | ⟨-, hsame | hnone⟩
      · right
        have hlobby := Option.some.inj (hlobby.symm.trans hshown)
        rw [hlobby, arrivals, List.mem_filterMap]
        exact ⟨_, List.mem_singleton.mpr rfl, hpublished⟩
      · left
        exact ih.1 lobby (hsame ▸ hlobby)
      · rw [hnone] at hlobby
        cases hlobby
    refine ⟨hlast, fun t ht lobby hlobby => ?_⟩
    rcases List.mem_append.mp ht with ht | ht
    · rw [harrivals]
      exact List.mem_append_left _ (ih.2 t ht lobby hlobby)
    · rw [List.mem_singleton.mp ht] at hlobby
      exact hlast lobby hlobby

/-- **Arrivals in order** keep the law: no state falls behind an earlier one. -/
theorem follows_of_arrivals (h : Run RealtimeStep (RealtimeSystem.start ι version) ts S)
    (horder : (arrivals ts).Pairwise NotBehind) : NeverDecreases ts ∧ ∀ t ∈ ts, Follows t.post S := by
  induction h with
  | refl => exact ⟨List.Pairwise.nil, fun t ht => (by cases ht)⟩
  | @snoc m S ts l hrun hstep ih =>
    have harrivals : arrivals (ts ++ [⟨m, l, S⟩]) = arrivals ts ++ arrivals [⟨m, l, S⟩] :=
      List.filterMap_append
    rw [harrivals, List.pairwise_append] at horder
    obtain ⟨hbefore, -, hacross⟩ := horder
    obtain ⟨hlaw, hfollows⟩ := ih hbefore
    have hlast : ∀ t ∈ ts, Follows t.post S := by
      intro t ht lobby hlobby lobby' hlobby'
      rcases step_shows hstep with ⟨arrived, hpublished, hshown⟩ | ⟨-, hsame | hnone⟩
      · refine hacross lobby ((shown_mem_arrivals hrun).2 t ht lobby hlobby) lobby' ?_
        rw [Option.some.inj (hlobby'.symm.trans hshown), arrivals, List.mem_filterMap]
        exact ⟨_, List.mem_singleton.mpr rfl, hpublished⟩
      · exact hfollows t ht lobby hlobby lobby' (hsame ▸ hlobby')
      · rw [hnone] at hlobby'
        cases hlobby'
    refine ⟨?_, fun t ht => ?_⟩
    · rw [NeverDecreases, List.pairwise_append]
      refine ⟨hlaw, List.pairwise_singleton _ _, fun t ht t' ht' => ?_⟩
      rw [List.mem_singleton.mp ht']
      exact hlast t ht
    · rcases List.mem_append.mp ht with ht | ht
      · exact hlast t ht
      · rw [List.mem_singleton.mp ht]
        exact follows_self S

theorem arrivals_of_law (h : Run RealtimeStep (RealtimeSystem.start ι version) ts S)
    (hlaw : NeverDecreases ts) : (arrivals ts).Pairwise NotBehind := by
  rw [arrivals, List.pairwise_filterMap]
  refine List.Pairwise.imp_of_mem ?_ hlaw
  intro t t' ht ht' hfollows lobby hlobby lobby' hlobby'
  have hshown {u : Transition (RealtimeSystem ι) (RealtimeLabel ι)} (hu : u ∈ ts) {shown : LobbySnapshot}
      (hpublished : u.pre.published u.label = some shown) : shown ∈ u.post.client.currentLobby := by
    rcases step_shows (h.step_of_mem u hu) with ⟨arrived, harrived, hcurrent⟩ | ⟨hnone, -⟩
    · rw [Option.some.inj (hpublished.symm.trans harrived)]
      exact hcurrent
    · rw [hnone] at hpublished
      cases hpublished
  exact hfollows lobby (hshown ht hlobby) lobby' (hshown ht' hlobby')

end Runs

/-- **The lobby that is shown**: over every run of calls, responses and match states, on any number of
calls and in any order of arrival, the version of a lobby never decreases exactly when the snapshots of
each lobby arrive in the order of their versions. -/
theorem neverDecreases_iff {ι : Type} [DecidableEq ι] (version : String → ℤ)
    (ts : List (Transition (RealtimeSystem ι) (RealtimeLabel ι))) (S : RealtimeSystem ι)
    (h : Run RealtimeStep (RealtimeSystem.start ι version) ts S) :
    NeverDecreases ts ↔ (arrivals ts).Pairwise NotBehind :=
  ⟨arrivals_of_law h, fun horder => (follows_of_arrivals h horder).1⟩

/-! ### A late response -/

/-- A lobby as the server has it at a version. -/
def lobbyAt (rowVersion : ℤ) : LobbySnapshot where
  id := "019f0000-0000-7000-8000-000000000001"
  name := "Late night"
  visibility := .publicLobby
  maxPlayers := 10
  regionCode := "eu"
  currentHostPlayerId := "019f0000-0000-7000-8000-0000000000aa"
  rowVersion := rowVersion
  closed := false
  members := []
  hunterNomineeIds := []
  configuration := Nakama.Lobby.freshConfiguration

def responseAt (rowVersion : ℤ) : Option LobbyRpcResponse :=
  some ⟨"match", some (lobbyAt rowVersion), none⟩

def stateAt (rowVersion : ℤ) : MatchState where
  opCode := lobbyStateOpcode
  state := some ⟨some (lobbyAt rowVersion), none, none, none, none, none⟩

/-- A player joins a lobby with one call and nominates a hunter with another; while its response is on
its way, the lobby goes on, and its state is on its way too. -/
def twoArrivals {ι : Type} (i j : ι) (order : List (RealtimeLabel ι)) : List (RealtimeLabel ι) :=
  [.connect false, .connected, .send i (.joinLobby (lobbyAt 1).id) false, .answer i (responseAt 1),
    .receive i false, .join i false, .send j .nominateHunter false, .commit (lobbyAt 1).id,
    .answer j (responseAt 2), .commit (lobbyAt 1).id, .broadcast (stateAt 3)] ++ order

theorem run_of_arrivals (labels : List (RealtimeLabel (Fin 2))) (lobbies : List LobbySnapshot)
    (h : (replay RealtimeSystem.exec (RealtimeSystem.start (Fin 2) fun _ => 1) labels).map
      (fun run => arrivals run.1) = some lobbies) :
    ∃ ts S, Run RealtimeStep (RealtimeSystem.start (Fin 2) fun _ => 1) ts S ∧ arrivals ts = lobbies := by
  obtain ⟨⟨ts, S⟩, hreplay, harrivals⟩ := Option.map_eq_some_iff.mp h
  exact ⟨ts, S, (replay_run (fun _ _ _ h => h) hreplay).1, harrivals⟩

theorem lateResponse_run : ∃ ts S, Run RealtimeStep (RealtimeSystem.start (Fin 2) fun _ => 1) ts S ∧
    arrivals ts = [lobbyAt 1, lobbyAt 3, lobbyAt 2] :=
  run_of_arrivals (twoArrivals 0 1 [.deliver 0, .receive 1 false]) _ (by decide)

/-- **An older snapshot replaces a newer one**: the state of version 3 has arrived, and the response of
version 2 takes its place. -/
theorem older_replaces_newer :
    ∃ ts S, Run RealtimeStep (RealtimeSystem.start (Fin 2) fun _ => 1) ts S ∧ ¬ NeverDecreases ts := by
  obtain ⟨ts, S, hrun, harrivals⟩ := lateResponse_run
  refine ⟨ts, S, hrun, fun hlaw => ?_⟩
  have horder := arrivals_of_law hrun hlaw
  rw [harrivals] at horder
  exact absurd horder (by decide)

/-- The late response breaks the law; a run in which the same versions arrive in order keeps it. -/
theorem neverDecreases_iff_late :
    (∃ ts : List (Transition (RealtimeSystem (Fin 2)) (RealtimeLabel (Fin 2))),
      arrivals ts = [lobbyAt 1, lobbyAt 3, lobbyAt 2] ∧
        (NeverDecreases ts ↔ (arrivals ts).Pairwise NotBehind)) ∧
    ∃ ts S, Run RealtimeStep (RealtimeSystem.start (Fin 2) fun _ => 1) ts S ∧
      arrivals ts = [lobbyAt 1, lobbyAt 2, lobbyAt 3] ∧ NeverDecreases ts := by
  obtain ⟨ts, S, hrun, harrivals⟩ := lateResponse_run
  refine ⟨⟨ts, harrivals, neverDecreases_iff (fun _ => 1) ts S hrun⟩, ?_⟩
  obtain ⟨ts', S', hrun', harrivals'⟩ := run_of_arrivals (twoArrivals 0 1 [.receive 1 false, .deliver 0])
    [lobbyAt 1, lobbyAt 2, lobbyAt 3] (by decide)
  refine ⟨ts', S', hrun', harrivals', (neverDecreases_iff (fun _ => 1) ts' S' hrun').mpr ?_⟩
  rw [harrivals']
  decide

end HiveChameleon.Client
