import HiveChameleon.Nakama.CompactUuid
import HiveChameleon.Nakama.LobbyStore

/-!
# Nakama.ConfigurationPatch — what a patch makes of a lobby configuration

`applyConfigurationPatch` overlays the fields of a patch, checks the outcome and clears the taunt
interval of a configuration without taunts.  A patch that fails hands back what it was given; one that
succeeds hands back a configuration that the database accepts, and two patches in turn are one patch.
-/

namespace HiveChameleon.Nakama.Lobby

open Lib

/-! ### Texts of a patch -/

/-- `unicode.IsSpace` -/
def isSpace (c : Char) : Bool :=
  ('\t' ≤ c && c ≤ '\r') || c == ' ' || c == '\u0085' || c == '\u00a0' || c == '\u1680' ||
    ('\u2000' ≤ c && c ≤ '\u200a') || c == '\u2028' || c == '\u2029' || c == '\u202f' ||
    c == '\u205f' || c == '\u3000'

/-- `strings.TrimSpace` -/
def trimSpace (text : String) : String :=
  String.ofList ((text.toList.dropWhile isSpace).reverse.dropWhile isSpace).reverse

def gameMode (text : String) : GameMode :=
  if text = "casual" then .casual else if text = "infection" then .infection else .other text

/-- An `updateLobbyConfigurationRequest` with the texts that the client sent. -/
structure ConfigurationPatch where
  lobbyId : String
  expectedLobbyVersion : ℤ
  mode : Option String
  mapVersionId : Option String
  hunterCount : Option ℤ
  hidingDurationSeconds : Option ℤ
  huntingDurationSeconds : Option ℤ
  tauntEnabled : Option Bool
  tauntIntervalSeconds : Option ℤ
  shellLimit : Option ℤ
  reloadDurationMs : Option ℤ
  autoStartEnabled : Option Bool
  autoStartThreshold : Option ℤ
deriving DecidableEq, Repr

/-- The texts as the function reads them. -/
def ConfigurationPatch.request (p : ConfigurationPatch) : UpdateLobbyConfigurationRequest where
  lobbyId := p.lobbyId
  expectedLobbyVersion := p.expectedLobbyVersion
  mode := p.mode.map fun mode => gameMode (toLower (trimSpace mode))
  mapVersionId := p.mapVersionId.map trimSpace
  hunterCount := p.hunterCount
  hidingDurationSeconds := p.hidingDurationSeconds
  huntingDurationSeconds := p.huntingDurationSeconds
  tauntEnabled := p.tauntEnabled
  tauntIntervalSeconds := p.tauntIntervalSeconds
  shellLimit := p.shellLimit
  reloadDurationMs := p.reloadDurationMs
  autoStartEnabled := p.autoStartEnabled
  autoStartThreshold := p.autoStartThreshold

/-- The two results of `applyConfigurationPatch`: with an error it hands back the current one. -/
def ConfigurationPatch.apply (p : ConfigurationPatch) (current : LobbyConfiguration) (maxPlayers : ℤ) :
    LobbyConfiguration × Option LobbyError :=
  match applyConfigurationPatch current p.request maxPlayers with
  | .ok next => (next, none)
  | .error e => (current, some e)

/-- The patch that does what `p` does, and then `q`. -/
def ConfigurationPatch.over (q p : ConfigurationPatch) : ConfigurationPatch where
  lobbyId := q.lobbyId
  expectedLobbyVersion := q.expectedLobbyVersion
  mode := q.mode.or p.mode
  mapVersionId := q.mapVersionId.or p.mapVersionId
  hunterCount := q.hunterCount.or p.hunterCount
  hidingDurationSeconds := q.hidingDurationSeconds.or p.hidingDurationSeconds
  huntingDurationSeconds := q.huntingDurationSeconds.or p.huntingDurationSeconds
  tauntEnabled := q.tauntEnabled.or p.tauntEnabled
  tauntIntervalSeconds := q.tauntIntervalSeconds.or p.tauntIntervalSeconds
  shellLimit := q.shellLimit.or p.shellLimit
  reloadDurationMs := q.reloadDurationMs.or p.reloadDurationMs
  autoStartEnabled := q.autoStartEnabled.or p.autoStartEnabled
  autoStartThreshold := q.autoStartThreshold.or p.autoStartThreshold

/-! ### The rules -/

/-- The largest capacity that a lobby can have. -/
def lobbyMaximumPlayers : ℤ := 10

/-- **The rules of a lobby configuration**: the bounds, and the rules across fields. -/
structure ValidConfiguration (maxPlayers : ℤ) (c : LobbyConfiguration) : Prop where
  mode : c.mode = .casual ∨ c.mode = .infection
  hunters : 1 ≤ c.hunterCount ∧ c.hunterCount ≤ 2
  hidingTime : 10 ≤ c.hidingDurationSeconds ∧ c.hidingDurationSeconds ≤ 600
  huntingTime : 30 ≤ c.huntingDurationSeconds ∧ c.huntingDurationSeconds ≤ 1800
  shells : 1 ≤ c.shellLimit ∧ c.shellLimit ≤ 100
  reload : 100 ≤ c.reloadDurationMs ∧ c.reloadDurationMs ≤ 30000
  threshold : lobbyMinimumPlayers ≤ c.autoStartThreshold ∧ c.autoStartThreshold ≤ maxPlayers
  taunts : c.tauntEnabled = true → ∃ interval ∈ c.tauntIntervalSeconds, 5 ≤ interval ∧ interval ≤ 300

/-- The map version of a configuration is a canonical identifier; no other rule asks for it again. -/
def ValidMap (c : LobbyConfiguration) : Prop :=
  ∀ id ∈ c.mapVersionId, canonicalUUIDV7 id = true

/-- **What a patch leaves alone**: every field that it does not name; the interval of the taunts is
cleared where they are disabled. -/
structure KeepsUnpatched (p : ConfigurationPatch) (current next : LobbyConfiguration) : Prop where
  mode : p.mode = none → next.mode = current.mode
  map : p.mapVersionId = none → next.mapVersionId = current.mapVersionId
  hunters : p.hunterCount = none → next.hunterCount = current.hunterCount
  hidingTime : p.hidingDurationSeconds = none → next.hidingDurationSeconds = current.hidingDurationSeconds
  huntingTime :
    p.huntingDurationSeconds = none → next.huntingDurationSeconds = current.huntingDurationSeconds
  taunts : p.tauntEnabled = none → next.tauntEnabled = current.tauntEnabled
  interval : p.tauntIntervalSeconds = none → next.tauntEnabled = true →
    next.tauntIntervalSeconds = current.tauntIntervalSeconds
  cleared : next.tauntEnabled = false → next.tauntIntervalSeconds = none
  shells : p.shellLimit = none → next.shellLimit = current.shellLimit
  reload : p.reloadDurationMs = none → next.reloadDurationMs = current.reloadDurationMs
  starts : p.autoStartEnabled = none → next.autoStartEnabled = current.autoStartEnabled
  threshold : p.autoStartThreshold = none → next.autoStartThreshold = current.autoStartThreshold
  version : next.rowVersion = current.rowVersion

/-- The map version that a patch leaves. -/
def patchedMap (current : Option String) : Option String → Option String
  | none => current
  | some mapVersionId => if mapVersionId = "" then none else some mapVersionId

/-- **The overlay**: every field of a patch over the field of the configuration; a configuration without
taunts has no interval. -/
def overlay (c : LobbyConfiguration) (r : UpdateLobbyConfigurationRequest) : LobbyConfiguration where
  mode := r.mode.getD c.mode
  mapVersionId := patchedMap c.mapVersionId r.mapVersionId
  hunterCount := r.hunterCount.getD c.hunterCount
  hidingDurationSeconds := r.hidingDurationSeconds.getD c.hidingDurationSeconds
  huntingDurationSeconds := r.huntingDurationSeconds.getD c.huntingDurationSeconds
  tauntEnabled := r.tauntEnabled.getD c.tauntEnabled
  tauntIntervalSeconds :=
    if r.tauntEnabled.getD c.tauntEnabled then r.tauntIntervalSeconds.or c.tauntIntervalSeconds else none
  shellLimit := r.shellLimit.getD c.shellLimit
  reloadDurationMs := r.reloadDurationMs.getD c.reloadDurationMs
  autoStartEnabled := r.autoStartEnabled.getD c.autoStartEnabled
  autoStartThreshold := r.autoStartThreshold.getD c.autoStartThreshold
  rowVersion := c.rowVersion

section Rules

variable {current next mid : LobbyConfiguration} {r : UpdateLobbyConfigurationRequest} {maxPlayers : ℤ}

theorem patchMapVersion_eq_ok {map : Option String} :
    patchMapVersion current.mapVersionId r.mapVersionId = .ok map ↔
      (∀ id ∈ r.mapVersionId, id = "" ∨ canonicalUUIDV7 id = true) ∧
        map = patchedMap current.mapVersionId r.mapVersionId := by
  cases hmap : r.mapVersionId with
  | none =>
    have hsame : current.mapVersionId = map ↔ map = current.mapVersionId := eq_comm
    simp [patchMapVersion, patchedMap, hsame]
  | some id =>
    by_cases hempty : id = ""
    · have hsame : none = map ↔ map = none := eq_comm
      simp [patchMapVersion, patchedMap, hempty, hsame]
    · by_cases hcanonical : canonicalUUIDV7 id = true
      · have hsame : some id = map ↔ map = some id := eq_comm
        simp [patchMapVersion, patchedMap, hempty, hcanonical, hsame]
      · simp [patchMapVersion, hempty, hcanonical]

/-- **What succeeds**: the overlay, when the map version of the patch and the overlay are valid. -/
theorem applyConfigurationPatch_eq_ok :
    applyConfigurationPatch current r maxPlayers = .ok next ↔
      next = overlay current r ∧ (∀ id ∈ r.mapVersionId, id = "" ∨ canonicalUUIDV7 id = true) ∧
        ValidConfiguration maxPlayers (overlay current r) := by
  simp only [applyConfigurationPatch, bind_eq_ok, exists_unit, require_eq_ok, pure_eq_ok,
    patchMapVersion_eq_ok]
  constructor
  · rintro ⟨map, ⟨hmap, rfl⟩, hmode, hhunters, hhiding, hhunting, hshells, hreload, hthreshold, htaunts, rfl⟩
    refine ⟨?_, hmap, hmode, hhunters, hhiding, hhunting, hshells, hreload, hthreshold, ?_⟩
    · unfold overlay
      by_cases henabled : r.tauntEnabled.getD current.tauntEnabled = true
      · simp [henabled]
      · simp [henabled]
    · intro henabled
      have henabled : r.tauntEnabled.getD current.tauntEnabled = true := henabled
      have hinterval := htaunts henabled
      simpa [overlay, henabled] using hinterval
  · rintro ⟨rfl, hmap, hvalid⟩
    refine ⟨_, ⟨hmap, rfl⟩, hvalid.mode, hvalid.hunters, hvalid.hidingTime, hvalid.huntingTime, hvalid.shells,
      hvalid.reload, hvalid.threshold, ?_, ?_⟩
    · intro henabled
      have hinterval := hvalid.taunts henabled
      simpa [overlay, henabled] using hinterval
    · unfold overlay
      by_cases henabled : r.tauntEnabled.getD current.tauntEnabled = true
      · simp [henabled]
      · simp [henabled]

theorem ValidConfiguration.checks (h : ValidConfiguration maxPlayers next) (hcapacity : maxPlayers ≤ 10) :
    configurationChecks next = .ok () := by
  have hthreshold := h.threshold
  rw [lobbyMinimumPlayers] at hthreshold
  have hhiding := h.hidingTime
  have hhunting := h.huntingTime
  have hshells := h.shells
  have hreload := h.reload
  simp only [configurationChecks, bind_eq_ok, exists_unit, require_eq_ok]
  refine ⟨h.hunters, by omega, by omega, by omega, by omega, by omega, fun henabled => ?_⟩
  obtain ⟨interval, hinterval, hlow, -⟩ := h.taunts henabled
  exact ⟨interval, hinterval, by omega⟩

theorem validMap_overlay (hmap : ∀ id ∈ r.mapVersionId, id = "" ∨ canonicalUUIDV7 id = true)
    (hcurrent : ValidMap current) : ValidMap (overlay current r) := by
  intro id hid
  have hid : id ∈ patchedMap current.mapVersionId r.mapVersionId := hid
  cases hpatch : r.mapVersionId with
  | none => exact hcurrent id (by rwa [hpatch] at hid)
  | some text =>
    rw [hpatch] at hid
    by_cases hempty : text = ""
    · simp [patchedMap, hempty] at hid
    · have hsame : text = id := by simpa [patchedMap, hempty] using hid
      have hchecked := hmap text hpatch
      rw [hsame] at hempty hchecked
      exact hchecked.resolve_left hempty

end Rules

/-! ### Patches -/

section Patches

variable {current mid next : LobbyConfiguration} {p q : ConfigurationPatch} {maxPlayers : ℤ}

theorem apply_eq_none :
    p.apply current maxPlayers = (next, none) ↔
      applyConfigurationPatch current p.request maxPlayers = .ok next := by
  unfold ConfigurationPatch.apply
  split
  · rename_i made hmade
    simp [hmade]
  · rename_i e hfailed
    simp [hfailed]

theorem keepsUnpatched_overlay : KeepsUnpatched p current (overlay current p.request) where
  mode h := by simp [overlay, ConfigurationPatch.request, h]
  map h := by simp [overlay, ConfigurationPatch.request, patchedMap, h]
  hunters h := by simp [overlay, ConfigurationPatch.request, h]
  hidingTime h := by simp [overlay, ConfigurationPatch.request, h]
  huntingTime h := by simp [overlay, ConfigurationPatch.request, h]
  taunts h := by simp [overlay, ConfigurationPatch.request, h]
  interval h henabled := by
    have henabled : p.request.tauntEnabled.getD current.tauntEnabled = true := henabled
    have hnone : p.request.tauntIntervalSeconds = none := h
    simp [overlay, henabled, hnone]
  cleared hdisabled := by
    have hdisabled : p.request.tauntEnabled.getD current.tauntEnabled = false := hdisabled
    simp [overlay, hdisabled]
  shells h := by simp [overlay, ConfigurationPatch.request, h]
  reload h := by simp [overlay, ConfigurationPatch.request, h]
  starts h := by simp [overlay, ConfigurationPatch.request, h]
  threshold h := by simp [overlay, ConfigurationPatch.request, h]
  version := rfl

theorem patchedMap_or (map : Option String) (older newer : Option String) :
    patchedMap (patchedMap map older) newer = patchedMap map (newer.or older) := by
  cases newer with
  | none => rfl
  | some mapVersionId => rfl

theorem interval_over {current older newer : Option ℤ} {first last : Bool}
    (hneeded : last = true → newer.or (if first then older.or current else none) ≠ none) :
    (if last then newer.or (if first then older.or current else none) else none) =
      if last then (newer.or older).or current else none := by
  cases last with
  | false => rfl
  | true =>
    cases first with
    | true => simp [Option.or_assoc]
    | false =>
      -- The older patch has cleared the interval, so the newer one brings its own.
      cases newer with
      | none => exact absurd rfl (hneeded rfl)
      | some interval => rfl

/-- **One patch for two**: unless taunts are enabled without an interval, the overlays of two patches are
the overlay of the newer over the older. -/
theorem overlay_over
    (hinterval : (overlay (overlay current p.request) q.request).tauntEnabled = true →
      (overlay (overlay current p.request) q.request).tauntIntervalSeconds ≠ none) :
    overlay (overlay current p.request) q.request = overlay current (q.over p).request := by
  have hneeded : q.tauntEnabled.getD (p.tauntEnabled.getD current.tauntEnabled) = true →
      q.tauntIntervalSeconds.or (if p.tauntEnabled.getD current.tauntEnabled then
        p.tauntIntervalSeconds.or current.tauntIntervalSeconds else none) ≠ none := by
    intro hlast
    have hkept : (overlay (overlay current p.request) q.request).tauntIntervalSeconds =
        q.tauntIntervalSeconds.or (if p.tauntEnabled.getD current.tauntEnabled then
          p.tauntIntervalSeconds.or current.tauntIntervalSeconds else none) := if_pos hlast
    rw [← hkept]
    exact hinterval hlast
  have hmap : patchedMap (patchedMap current.mapVersionId (p.mapVersionId.map trimSpace))
        (q.mapVersionId.map trimSpace) =
      patchedMap current.mapVersionId ((q.mapVersionId.or p.mapVersionId).map trimSpace) := by
    rw [patchedMap_or, Option.map_or]
  have hmode : (q.over p).request.mode = q.request.mode.or p.request.mode := Option.map_or
  have henabled : (q.over p).request.tauntEnabled.getD current.tauntEnabled =
      q.tauntEnabled.getD (p.tauntEnabled.getD current.tauntEnabled) := Option.getD_or
  have htaunts : (overlay (overlay current p.request) q.request).tauntIntervalSeconds =
      (overlay current (q.over p).request).tauntIntervalSeconds := by
    refine (interval_over hneeded).trans ?_
    simp only [overlay, henabled]
    rfl
  unfold overlay
  rw [LobbyConfiguration.mk.injEq, hmode]
  exact ⟨Option.getD_or.symm, hmap, Option.getD_or.symm, Option.getD_or.symm, Option.getD_or.symm,
    Option.getD_or.symm, htaunts, Option.getD_or.symm, Option.getD_or.symm, Option.getD_or.symm,
    Option.getD_or.symm, rfl⟩

theorem ValidConfiguration.interval (h : ValidConfiguration maxPlayers next)
    (henabled : next.tauntEnabled = true) : next.tauntIntervalSeconds ≠ none := by
  obtain ⟨interval, hinterval, -⟩ := h.taunts henabled
  intro hnone
  rw [hnone] at hinterval
  cases hinterval

theorem over_maps (hp : ∀ id ∈ p.request.mapVersionId, id = "" ∨ canonicalUUIDV7 id = true)
    (hq : ∀ id ∈ q.request.mapVersionId, id = "" ∨ canonicalUUIDV7 id = true) :
    ∀ id ∈ (q.over p).request.mapVersionId, id = "" ∨ canonicalUUIDV7 id = true := by
  intro id hid
  have hid : id ∈ (q.mapVersionId.or p.mapVersionId).map trimSpace := hid
  rw [Option.map_or] at hid
  rcases Option.or_eq_some_iff.mp hid with hnewer | ⟨-, holder⟩
  · exact hq id hnewer
  · exact hp id holder

/-- **Composition**: two patches that succeed in turn succeed as one, with the same outcome. -/
theorem apply_over (hp : p.apply current maxPlayers = (mid, none)) (hq : q.apply mid maxPlayers = (next, none)) :
    (q.over p).apply current maxPlayers = (next, none) := by
  rw [apply_eq_none, applyConfigurationPatch_eq_ok] at hp hq
  obtain ⟨rfl, hpmap, -⟩ := hp
  obtain ⟨rfl, hqmap, hvalid⟩ := hq
  have hsame := overlay_over hvalid.interval
  rw [apply_eq_none, applyConfigurationPatch_eq_ok, ← hsame]
  exact ⟨rfl, over_maps hpmap hqmap, hvalid⟩

/-- **What one patch does**: it fails and hands back the configuration that it was given, or it succeeds
with a configuration that keeps the rules and passes the checks of the table, and changes nothing that it
does not name. -/
theorem apply_cases (hcapacity : maxPlayers ≤ lobbyMaximumPlayers) :
    (∃ e, p.apply current maxPlayers = (current, some e)) ∨
      ∃ next, p.apply current maxPlayers = (next, none) ∧ ValidConfiguration maxPlayers next ∧
        (ValidMap current → ValidMap next) ∧ configurationChecks next = .ok () ∧
        KeepsUnpatched p current next := by
  cases happlied : applyConfigurationPatch current p.request maxPlayers with
  | error e =>
    left
    exact ⟨e, by simp [ConfigurationPatch.apply, happlied]⟩
  | ok next =>
    right
    have hnext := apply_eq_none.mpr happlied
    rw [applyConfigurationPatch_eq_ok] at happlied
    obtain ⟨rfl, hmap, hvalid⟩ := happlied
    exact ⟨_, hnext, hvalid, validMap_overlay hmap, hvalid.checks hcapacity, keepsUnpatched_overlay⟩

end Patches

/-- **Patches of a lobby configuration**: whatever the configuration, a patch fails and leaves it as it
was, or keeps every rule, the checks of the table and the fields that it does not name; and two patches
that succeed in turn succeed as one, with the same outcome. -/
theorem patches_keep_rules (maxPlayers : ℤ) (hcapacity : maxPlayers ≤ lobbyMaximumPlayers)
    (current : LobbyConfiguration) (p q : ConfigurationPatch) :
    ((∃ e, p.apply current maxPlayers = (current, some e)) ∨
      ∃ next, p.apply current maxPlayers = (next, none) ∧ ValidConfiguration maxPlayers next ∧
        (ValidMap current → ValidMap next) ∧ configurationChecks next = .ok () ∧
        KeepsUnpatched p current next) ∧
      ∀ mid next, p.apply current maxPlayers = (mid, none) → q.apply mid maxPlayers = (next, none) →
        (q.over p).apply current maxPlayers = (next, none) := by
  constructor
  · exact apply_cases hcapacity
  · intro mid next hp hq
    exact apply_over hp hq

/-- The configuration of a new lobby. -/
def freshConfiguration : LobbyConfiguration where
  mode := .casual
  mapVersionId := none
  hunterCount := 1
  hidingDurationSeconds := 60
  huntingDurationSeconds := 300
  tauntEnabled := true
  tauntIntervalSeconds := some 30
  shellLimit := 5
  reloadDurationMs := 1500
  autoStartEnabled := true
  autoStartThreshold := 7
  rowVersion := 1

/-- A patch that silences the lobby, and one that lets it taunt again. -/
def silencing : ConfigurationPatch where
  lobbyId := "lobby"
  expectedLobbyVersion := 1
  mode := some " Infection"
  mapVersionId := none
  hunterCount := none
  hidingDurationSeconds := none
  huntingDurationSeconds := none
  tauntEnabled := some false
  tauntIntervalSeconds := none
  shellLimit := none
  reloadDurationMs := none
  autoStartEnabled := none
  autoStartThreshold := none

def taunting : ConfigurationPatch :=
  { silencing with mode := none, tauntEnabled := some true, tauntIntervalSeconds := some 20 }

theorem patches_keep_rules_silenced :
    (taunting.over silencing).apply freshConfiguration 10 =
      ({ freshConfiguration with mode := .infection, tauntIntervalSeconds := some 20 }, none) :=
  (patches_keep_rules 10 (by decide) freshConfiguration silencing taunting).2
    { freshConfiguration with mode := .infection, tauntEnabled := false, tauntIntervalSeconds := none }
    { freshConfiguration with mode := .infection, tauntIntervalSeconds := some 20 } (by decide) (by decide)

end HiveChameleon.Nakama.Lobby
