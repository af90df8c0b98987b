import HiveChameleon.Publisher.RecordedTexts
import HiveChameleon.Publisher.StoredCandidate

/-!
# Publisher.Expressible — which stored results the public protocol can express

`candidateFromRow` on the row of a stored result: the fields and the rules of `matchResultSchema`, and
the bytes of the batch with this one result.
-/

namespace HiveChameleon.Publisher.PublicMatch

open Gateway Gateway.EventSchema Gateway.Schema Lib Nakama

section

variable {G : GoRuntime} {J : JsRuntime} {input : TerminalResultCommit} {canonicalSha256 : String}
  {pub : PublisherDb} {row : CandidateRow}

/-! ### The fields -/

theorem accepts_resultMapSchema {mapId versionId version sha256 : String} :
    resultMapSchema.Accepts (.object [("map_id", .string mapId), ("version_id", .string versionId),
      ("version", .string version), ("content_sha256", .string sha256)]) ↔
      isUuidV7 mapId = true ∧ isUuidV7 versionId = true ∧ boundedLength 1 32 version = true ∧
        Gateway.sha256Schema sha256 = true := by
  rw [resultMapSchema, accepts_strictObject]
  simp only [List.forall_mem_cons, List.not_mem_nil, false_implies, implies_true, Schema.required,
    Field.Accepts, List.lookup_cons, beq_self_eq_true, String.reduceBEq, uuidV7Schema, EventSchema.sha256Schema, accepts_stringOf,
    and_true]
  exact and_iff_right (by simp [Known])

theorem accepts_resultServerSchema {build protocol : String} :
    resultServerSchema.Accepts (.object [("build", .string build), ("protocol", .string protocol)]) ↔
      boundedLength 1 64 build = true ∧ Gateway.controlledCodeSchema protocol = true := by
  rw [resultServerSchema, accepts_strictObject]
  simp only [List.forall_mem_cons, List.not_mem_nil, false_implies, implies_true, Schema.required,
    Field.Accepts, List.lookup_cons, beq_self_eq_true, String.reduceBEq, EventSchema.controlledCodeSchema, accepts_stringOf, and_true]
  exact and_iff_right (by simp [Known])

/-- What the schema asks of the fields of the object that is checked. -/
structure FieldsAccepted (J : JsRuntime) (row : CandidateRow) : Prop where
  roundId : isUuidV7 row.roundId = true
  completedAt : J.datetime (toISOString row.completedAt) = true
  tournament : ∀ id ∈ row.columns.tournamentId, isUuidV7 id = true
  resultSchema : Gateway.controlledCodeSchema row.resultSchemaVersion = true
  scoringRules : Gateway.controlledCodeSchema row.scoringRuleVersion = true
  mapId : isUuidV7 row.columns.mapId = true
  mapVersionId : isUuidV7 row.columns.mapVersionId = true
  mapVersion : boundedLength 1 32 row.columns.mapVersion = true
  mapContent : Gateway.sha256Schema row.columns.mapContentSha256 = true
  build : boundedLength 1 64 row.columns.gameServerBuildVersion = true
  protocol : Gateway.controlledCodeSchema row.columns.protocolVersion = true
  winningSide : ["hiders", "hunters", "none"].contains row.winningSide = true
  winnerAccounts : (array 0 10 hiveAccountSchema).Accepts row.winnerAccounts
  participants : (array 1 10 matchParticipantSchema).Accepts row.participants
  discoveries : (array 0 45 discoverySchema).Accepts row.discoveries
  survivors : (array 0 10 hiveAccountSchema).Accepts row.survivors
  likes : (array 0 10 likeAggregateSchema).Accepts row.likes
  resultSha256 : Gateway.sha256Schema row.resultSha256 = true

theorem contains_mode (mode : GameMode) : ["casual", "infection"].contains mode.text = true := by
  cases mode <;> decide

theorem accepts_base : (matchResultShape J).Accepts row.base ↔ FieldsAccepted J row := by
  have hnormal : ["normal", "tournament"].contains "normal" = true := by decide
  have htournamentText : ["normal", "tournament"].contains "tournament" = true := by decide
  have hmode := contains_mode row.columns.mode
  rw [matchResultShape, CandidateRow.base, accepts_strictObject]
  cases htournament : row.columns.tournamentId with
  | none =>
    simp only [Option.toList_none, List.map_nil, List.append_nil, List.cons_append, List.nil_append,
      List.forall_mem_cons, List.not_mem_nil, false_implies, implies_true, Schema.required, Schema.optional, Field.Accepts,
      List.lookup_cons, List.lookup_nil, beq_self_eq_true, String.reduceBEq, uuidV7Schema,
      isoTimestampSchema, enum, EventSchema.controlledCodeSchema, EventSchema.sha256Schema,
      accepts_stringOf, accepts_resultMapSchema, accepts_resultServerSchema, reduceIte, hnormal, hmode,
      true_and, and_true]
    constructor
    · rintro ⟨-, hround, hcompleted, hschema, hscoring, ⟨hmap, hversionId, hversion, hcontent⟩,
        ⟨hbuild, hprotocol⟩, hside, hwinners, hparticipants, hdiscoveries, hsurvivors, hlikes, hsha⟩
      refine ⟨hround, hcompleted, fun id hid => ?_, hschema, hscoring, hmap, hversionId, hversion,
        hcontent, hbuild, hprotocol, hside, hwinners, hparticipants, hdiscoveries, hsurvivors, hlikes,
        hsha⟩
      rw [htournament] at hid
      cases hid
    · intro h
      exact ⟨by simp [Known], h.roundId, h.completedAt, h.resultSchema, h.scoringRules,
        ⟨h.mapId, h.mapVersionId, h.mapVersion, h.mapContent⟩, ⟨h.build, h.protocol⟩, h.winningSide,
        h.winnerAccounts, h.participants, h.discoveries, h.survivors, h.likes, h.resultSha256⟩
  | some id =>
    simp only [Option.toList_some, List.map_cons, List.map_nil, List.cons_append, List.nil_append,
      List.forall_mem_cons, List.not_mem_nil, false_implies, implies_true, Schema.required, Schema.optional, Field.Accepts,
      List.lookup_cons, beq_self_eq_true, String.reduceBEq, uuidV7Schema,
      isoTimestampSchema, enum, EventSchema.controlledCodeSchema, EventSchema.sha256Schema,
      accepts_stringOf, accepts_resultMapSchema, accepts_resultServerSchema, reduceCtorEq, reduceIte, htournamentText,
      hmode,
      true_and, and_true]
    constructor
    · rintro ⟨-, hround, hcompleted, hid, hschema, hscoring, ⟨hmap, hversionId, hversion, hcontent⟩,
        ⟨hbuild, hprotocol⟩, hside, hwinners, hparticipants, hdiscoveries, hsurvivors, hlikes, hsha⟩
      refine ⟨hround, hcompleted, fun other hother => ?_, hschema, hscoring, hmap, hversionId, hversion,
        hcontent, hbuild, hprotocol, hside, hwinners, hparticipants, hdiscoveries, hsurvivors, hlikes,
        hsha⟩
      rw [htournament] at hother
      rwa [← Option.some.inj hother]
    · intro h
      exact ⟨by simp [Known], h.roundId, h.completedAt, h.tournament id htournament, h.resultSchema,
        h.scoringRules, ⟨h.mapId, h.mapVersionId, h.mapVersion, h.mapContent⟩, ⟨h.build, h.protocol⟩,
        h.winningSide, h.winnerAccounts, h.participants, h.discoveries, h.survivors, h.likes,
        h.resultSha256⟩

/-! ### The arrays -/

theorem accepts_participantObject {p : RoundParticipantRow} :
    matchParticipantSchema.Accepts (participantObject pub p) ↔
      Gateway.hiveAccountSchema (pub.hiveUsername p.playerId) = true ∧
        ["hider", "hunter"].contains (roleText p.initialRole) = true ∧
        ["hider", "hunter"].contains (roleText p.finalRole) = true ∧
        ["survived", "found", "converted", "hunter_win", "hunter_loss"].contains
          (outcomeText p.outcome) = true ∧
        isFixedScore p.finalScore = true := by
  rw [matchParticipantSchema, participantObject, accepts_strictObject]
  simp only [List.forall_mem_cons, List.not_mem_nil, false_implies, implies_true, Schema.required,
    Field.Accepts, List.lookup_cons, beq_self_eq_true, String.reduceBEq, EventSchema.hiveAccountSchema,
    fixedScoreSchema, enum, accepts_stringOf, and_true]
  exact and_iff_right (by simp [Known])

theorem accepts_discoveryObject {d : RoundDiscoveryRow} :
    discoverySchema.Accepts (discoveryObject pub d) ↔
      Gateway.hiveAccountSchema (pub.hiveUsername d.hunterPlayerId) = true ∧
        Gateway.hiveAccountSchema (pub.hiveUsername d.hiderPlayerId) = true := by
  rw [discoverySchema, discoveryObject, accepts_strictObject]
  simp only [List.forall_mem_cons, List.not_mem_nil, false_implies, implies_true, Schema.required,
    Field.Accepts, List.lookup_cons, beq_self_eq_true, String.reduceBEq, EventSchema.hiveAccountSchema,
    accepts_stringOf, and_true]
  exact and_iff_right (by simp [Known])

theorem isPlainNumber_count {n : ℕ} (h : n ≤ 9) : isPlainNumber (toString n).toList = true := by
  have hall : ∀ n < 10, isPlainNumber (toString n).toList = true := by decide +kernel
  exact hall n (by omega)

theorem accepts_likeObject {roundId account : String}
    (haccount : Gateway.hiveAccountSchema account = true)
    (hcount : (likedAccounts pub roundId).count account ≤ 9) :
    likeAggregateSchema.Accepts (likeObject pub roundId account) := by
  rw [likeAggregateSchema, likeObject, accepts_strictObject]
  simp only [List.forall_mem_cons, List.not_mem_nil, false_implies, implies_true, Schema.required,
    Field.Accepts, List.lookup_cons, beq_self_eq_true, String.reduceBEq, EventSchema.hiveAccountSchema,
    accepts_stringOf, and_true]
  exact ⟨by simp [Known], haccount,
    accepts_integer (isPlainNumber_count hcount) (Nat.zero_le _) hcount⟩

theorem contains_roleText {role : PlayerRole} (h : validPlayerRole role = true) :
    ["hider", "hunter"].contains (roleText role) = true := by
  cases role with
  | hider => decide
  | hunter => decide
  | other text => simp [validPlayerRole] at h

theorem contains_outcomeText {outcome : ParticipantOutcome}
    (h : validParticipantOutcome outcome = true) :
    ["survived", "found", "converted", "hunter_win", "hunter_loss"].contains
      (outcomeText outcome) = true := by
  cases outcome with
  | other text => cases h
  | _ => decide

theorem accepts_accounts {names : List String} {max : ℕ} (hlength : names.length ≤ max)
    (hnames : ∀ name ∈ names, Gateway.hiveAccountSchema name = true) :
    (array 0 max EventSchema.hiveAccountSchema).Accepts (.array (names.map Json.string)) := by
  refine accepts_array.mpr ⟨⟨Nat.zero_le _, by rwa [List.length_map]⟩, fun v hv => ?_⟩
  obtain ⟨name, hname, rfl⟩ := List.mem_map.mp hv
  exact accepts_stringOf.mpr (hnames name hname)

/-- The accounts of the participants are account names. -/
theorem ValidIdentities.of_mem (hids : ValidIdentities pub input) {account : String}
    (h : account ∈ accounts pub input) : Gateway.hiveAccountSchema account = true := by
  obtain ⟨p, hp, rfl⟩ := List.mem_map.mp h
  exact hids.account p hp

/-- **Which fields of a stored result the schema refuses**: only a version code or the instant of its
end can be one. -/
theorem fieldsAccepted_stored (hrows : PublishedRows input pub) (hvalid : ValidTerminalResult G input)
    (hids : ValidIdentities pub input) (hsha : Gateway.sha256Schema canonicalSha256 = true) :
    FieldsAccepted J (storedRow pub input canonicalSha256) ↔
      Gateway.controlledCodeSchema input.resultSchemaVersion = true ∧
        Gateway.controlledCodeSchema input.scoringRuleVersion = true ∧
        J.datetime (toISOString (pub.date input.endedAt)) = true := by
  constructor
  · intro h
    exact ⟨h.resultSchema, h.scoringRules, h.completedAt⟩
  rintro ⟨hschema, hscoring, hcompleted⟩
  have hcount := hvalid.count
  have hnodup := hids.nodup_accounts hvalid
  have haccountsWith (outcomes : List ParticipantOutcome) :
      (array 0 10 EventSchema.hiveAccountSchema).Accepts
        (.array ((accountsWith pub input.roundId outcomes).map Json.string)) := by
    have hlength := length_le_of_subset (hrows.nodup_accountsWith hnodup outcomes)
      (hrows.accountsWith_subset outcomes)
    exact accepts_accounts (by omega) fun name hname =>
      hids.of_mem (hrows.accountsWith_subset outcomes hname)
  refine
    { roundId := isUuidV7_of_canonical hvalid.roundId, completedAt := hcompleted,
      tournament := hids.tournament, resultSchema := hschema, scoringRules := hscoring,
      mapId := hids.mapId, mapVersionId := hids.mapVersionId, mapVersion := hids.mapVersion,
      mapContent := hids.mapContent, build := hids.build, protocol := hids.protocol,
      winningSide := ?_, winnerAccounts := haccountsWith _, participants := ?_, discoveries := ?_,
      survivors := haccountsWith _, likes := ?_, resultSha256 := hsha }
  · show ["hiders", "hunters", "none"].contains (winningSideText input.winningSide) = true
    rcases hvalid.winningSide with hside | hside | hside
    all_goals
      rw [hside]
      decide
  · refine accepts_array.mpr ⟨?_, fun v hv => ?_⟩
    · rw [List.length_map, hrows.participantRows.length_eq, List.length_map]
      omega
    · obtain ⟨p, hp, rfl⟩ := List.mem_map.mp hv
      obtain ⟨q, hq, rfl⟩ := hrows.mem_players.mp hp
      have hparticipant := hvalid.participant q hq
      exact accepts_participantObject.mpr ⟨hids.account q hq,
        contains_roleText hparticipant.roles.1, contains_roleText hparticipant.roles.2,
        contains_outcomeText hparticipant.outcome.1, isFixedScore_of_pattern hparticipant.outcome.2⟩
  · refine accepts_array.mpr ⟨?_, fun v hv => ?_⟩
    · have hlength := hrows.length_discoveries hvalid
      rw [List.length_map]
      omega
    · obtain ⟨d, hd, rfl⟩ := List.mem_map.mp hv
      obtain ⟨hhunter, hhider⟩ := hrows.discovery_accounts hvalid hd
      exact accepts_discoveryObject.mpr ⟨hids.of_mem hhunter, hids.of_mem hhider⟩
  · refine accepts_array.mpr ⟨?_, fun v hv => ?_⟩
    · have hlength := length_le_of_subset nodup_likeAccounts (hrows.likeAccounts_subset hvalid)
      rw [List.length_map]
      omega
    · obtain ⟨account, haccount, rfl⟩ := List.mem_map.mp hv
      exact accepts_likeObject (hids.of_mem (hrows.likeAccounts_subset hvalid haccount))
        (hrows.count_le hvalid hids account)

/-! ### The rules -/

theorem get_base (row : CandidateRow) : row.base.get "context" =
      some (.string (if row.columns.tournamentId = none then "normal" else "tournament")) ∧
    row.base.get "tournament_id" = row.columns.tournamentId.map Json.string ∧
    row.base.get "winning_side" = some (.string row.winningSide) ∧
    row.base.get "winner_accounts" = some row.winnerAccounts ∧
    row.base.get "participants" = some row.participants ∧
    row.base.get "discoveries" = some row.discoveries ∧
    row.base.get "survivors" = some row.survivors ∧ row.base.get "likes" = some row.likes := by
  cases htournament : row.columns.tournamentId with
  | none =>
    simp only [CandidateRow.base, htournament]
    exact ⟨rfl, rfl, rfl, rfl, rfl, rfl, rfl, rfl⟩
  | some id =>
    simp only [CandidateRow.base, htournament]
    exact ⟨rfl, rfl, rfl, rfl, rfl, rfl, rfl, rfl⟩

/-- The texts of one key of the objects of an array. -/
theorem pluck_of_get {α : Type} {v : Json} {key inner : String} {items : List α} {object : α → Json}
    {name : α → String} (hget : v.get key = some (.array (items.map object)))
    (hname : ∀ item, (object item).text inner = some (name item)) :
    pluck v key inner = (items.map name).map some := by
  rw [pluck, Json.items, hget, Option.bind_some]
  show (items.map object).map (fun item => item.text inner) = _
  rw [List.map_map, List.map_map]
  exact List.map_congr_left fun item _ => hname item

theorem texts_of_get {v : Json} {key : String} {names : List String}
    (hget : v.get key = some (.array (names.map Json.string))) : v.texts key = names.map some := by
  rw [Json.texts, Json.items, hget, Option.bind_some]
  show (names.map Json.string).map Json.asString = _
  rw [List.map_map]
  rfl

theorem nodup_map_some {names : List String} (h : names.Nodup) : (names.map some).Nodup :=
  h.map (Option.some_injective _)

/-- Names of which each is one of the others. -/
theorem mem_map_some_of_subset {names others : List String} (h : names ⊆ others)
    (account : Option String) (haccount : account ∈ names.map some) : account ∈ others.map some := by
  obtain ⟨name, hname, rfl⟩ := List.mem_map.mp haccount
  exact List.mem_map_of_mem (h hname)

/-- The rules hold for every stored result. -/
theorem rules_stored (hrows : PublishedRows input pub) (hvalid : ValidTerminalResult G input)
    (hids : ValidIdentities pub input) :
    MatchResultRules (storedRow pub input canonicalSha256).base := by
  obtain ⟨hcontext, htournament, hside, hwinners, hparticipants, hdiscoveries, hsurvivors, hlikes⟩ :=
    get_base (storedRow pub input canonicalSha256)
  have haccounts := pluck_of_get hparticipants fun p =>
    show (participantObject pub p).text "account" = some (pub.hiveUsername p.playerId) from rfl
  have hlikeAccounts := pluck_of_get hlikes fun account =>
    show (likeObject pub input.roundId account).text "account" = some (id account) from rfl
  have hhunters := pluck_of_get hdiscoveries fun d =>
    show (discoveryObject pub d).text "hunter" = some (pub.hiveUsername d.hunterPlayerId) from rfl
  have hhiders := pluck_of_get hdiscoveries fun d =>
    show (discoveryObject pub d).text "hider" = some (pub.hiveUsername d.hiderPlayerId) from rfl
  rw [List.map_id] at hlikeAccounts
  have hnodup := hids.nodup_accounts hvalid
  have hmem {names : List String} (h : names ⊆ accounts pub input) :
      names ⊆ (players pub input.roundId).map fun p => pub.hiveUsername p.playerId :=
    fun name hname => hrows.perm_accounts.mem_iff.mpr (h hname)
  simp only [MatchResultRules, haccounts, hlikeAccounts, hhunters, hhiders, texts_of_get hwinners,
    texts_of_get hsurvivors]
  refine ⟨?_, ?_, nodup_map_some (hrows.perm_accounts.nodup_iff.mpr hnodup),
    nodup_map_some (hrows.nodup_accountsWith hnodup _),
    nodup_map_some (hrows.nodup_accountsWith hnodup _), nodup_map_some nodup_likeAccounts,
    mem_map_some_of_subset (hmem (hrows.accountsWith_subset _)),
    mem_map_some_of_subset (hmem (hrows.accountsWith_subset _)),
    mem_map_some_of_subset (hmem (hrows.likeAccounts_subset hvalid)),
    mem_map_some_of_subset (hmem fun name hname => ?_),
    mem_map_some_of_subset (hmem fun name hname => ?_), ?_⟩
  · intro htext
    rw [Json.text, hcontext] at htext
    rw [htournament]
    cases htournamentId : (storedRow pub input canonicalSha256).columns.tournamentId with
    | none =>
      rw [if_pos htournamentId] at htext
      exact absurd htext (by decide)
    | some id => rfl
  · intro htext
    rw [Json.text, hcontext] at htext
    rw [htournament]
    cases htournamentId : (storedRow pub input canonicalSha256).columns.tournamentId with
    | none => rfl
    | some id =>
      rw [if_neg (by rw [htournamentId]; exact Option.some_ne_none id)] at htext
      exact absurd htext (by decide)
  · obtain ⟨d, hd, rfl⟩ := List.mem_map.mp hname
    exact (hrows.discovery_accounts hvalid hd).1
  · obtain ⟨d, hd, rfl⟩ := List.mem_map.mp hname
    exact (hrows.discovery_accounts hvalid hd).2
  · intro htext
    rw [Json.text, hside] at htext
    have hnone : input.winningSide = .none := by
      rcases hvalid.winningSide with hwinning | hwinning | hwinning
      · rw [show (storedRow pub input canonicalSha256).winningSide = winningSideText input.winningSide
          from rfl, hwinning] at htext
        exact absurd htext (by decide)
      · rw [show (storedRow pub input canonicalSha256).winningSide = winningSideText input.winningSide
          from rfl, hwinning] at htext
        exact absurd htext (by decide)
      · exact hwinning
    rw [hrows.no_winners hvalid hnone, List.map_nil]

/-- **Which stored results `candidateFromRow` accepts.** -/
theorem candidateFromRow_stored (hrows : PublishedRows input pub)
    (hvalid : ValidTerminalResult G input) (hids : ValidIdentities pub input)
    (hsha : Gateway.sha256Schema canonicalSha256 = true) :
    (∃ candidate, candidateFromRow J (storedRow pub input canonicalSha256) = .ok candidate) ↔
      Gateway.controlledCodeSchema input.resultSchemaVersion = true ∧
        Gateway.controlledCodeSchema input.scoringRuleVersion = true ∧
        J.datetime (toISOString (pub.date input.endedAt)) = true := by
  rw [← fieldsAccepted_stored hrows hvalid hids hsha, ← accepts_base,
    ← and_iff_left (a := (matchResultShape J).Accepts _) (rules_stored hrows hvalid hids),
    ← accepts_matchResultSchema, candidateFromRow]
  cases hparse : (matchResultSchema J).parse (storedRow pub input canonicalSha256).base with
  | none =>
    constructor
    · rintro ⟨candidate, hcandidate⟩
      cases hcandidate
    · rintro ⟨d, hd⟩
      rw [hparse] at hd
      cases hd
  | some data => exact ⟨fun _ => ⟨data, hparse⟩, fun _ => ⟨_, rfl⟩⟩

/-! ### The bytes of the batch -/

theorem weight_accounts_le {names : List String} (hlength : names.length ≤ 10)
    (hnames : ∀ name ∈ names, Gateway.hiveAccountSchema name = true) :
    (Json.array (names.map Json.string)).weight ≤ 192 := by
  have hitems : weightItems (names.map Json.string) ≤ _ * (18 + 1) := weightItems_le fun item hitem => by
    obtain ⟨name, hname, rfl⟩ := List.mem_map.mp hitem
    exact textBytes_account (hnames name hname)
  rw [List.length_map] at hitems
  rw [Json.weight]
  omega

theorem textBytes_roleText {role : PlayerRole} (h : validPlayerRole role = true) :
    textBytes (roleText role) ≤ 8 := by
  cases role with
  | hider => decide
  | hunter => decide
  | other text => simp [validPlayerRole] at h

theorem textBytes_outcomeText {outcome : ParticipantOutcome}
    (h : validParticipantOutcome outcome = true) : textBytes (outcomeText outcome) ≤ 13 := by
  cases outcome with
  | other text => cases h
  | _ => decide

theorem weight_participantObject_le {p : TerminalParticipant} {winningSide : WinningSide}
    (hvalid : ParticipantValid G winningSide p) (hscore : numericDigits p.finalScore ≤ 14)
    (haccount : Gateway.hiveAccountSchema (pub.hiveUsername p.playerId) = true) :
    (participantObject pub (participantRow input.roundId p)).weight ≤ 131 := by
  have hkeys : textBytes "account" + textBytes "initial_role" + textBytes "final_role" +
      textBytes "outcome" + textBytes "score" = 51 := rfl
  have hname := textBytes_account haccount
  have hinitial := textBytes_roleText hvalid.roles.1
  have hfinal := textBytes_roleText hvalid.roles.2
  have houtcome := textBytes_outcomeText hvalid.outcome.1
  have hdigits := textBytes_score hvalid.outcome.2 hscore
  simp only [participantObject, participantRow, Json.weight, weightFields]
  omega

theorem weight_discoveryObject_le {d : RoundDiscoveryRow}
    (hhunter : Gateway.hiveAccountSchema (pub.hiveUsername d.hunterPlayerId) = true)
    (hhider : Gateway.hiveAccountSchema (pub.hiveUsername d.hiderPlayerId) = true) :
    (discoveryObject pub d).weight ≤ 57 := by
  have hkeys : textBytes "hunter" + textBytes "hider" = 15 := rfl
  have hhunterBytes := textBytes_account hhunter
  have hhiderBytes := textBytes_account hhider
  simp only [discoveryObject, Json.weight, weightFields]
  omega

theorem weight_likeObject_le {roundId account : String}
    (haccount : Gateway.hiveAccountSchema account = true)
    (hcount : (likedAccounts pub roundId).count account ≤ 9) :
    (likeObject pub roundId account).weight ≤ 44 := by
  have hkeys : textBytes "account" + textBytes "received" = 19 := rfl
  have hdigit : ∀ n < 10, (toString n).utf8ByteSize = 1 := by decide +kernel
  have hname := textBytes_account haccount
  have hreceived := hdigit _ (Nat.lt_succ_of_le hcount)
  simp only [likeObject, Json.weight, weightFields]
  omega

theorem textBytes_bounded {min max : ℕ} {text : String} (h : boundedLength min max text = true) :
    textBytes text ≤ 6 * max + 2 := by
  simp only [boundedLength, Bool.and_eq_true, decide_eq_true_eq] at h
  have hle := textBytes_le text
  have hmax := h.2
  omega

/-- The bytes of the object that is checked, apart from its arrays. -/
theorem weight_base_le (h : FieldsAccepted J row) :
    row.base.weight ≤ 1423 + row.winnerAccounts.weight + row.participants.weight +
      row.discoveries.weight + row.survivors.weight + row.likes.weight := by
  have hkeys : textBytes "round_id" + textBytes "completed_at" + textBytes "context" +
      textBytes "tournament_id" + textBytes "mode" + textBytes "result_schema" +
      textBytes "scoring_rules" + textBytes "map" + textBytes "server" + textBytes "winning_side" +
      textBytes "winner_accounts" + textBytes "participants" + textBytes "discoveries" +
      textBytes "survivors" + textBytes "likes" + textBytes "result_sha256" = 188 := rfl
  have hmapKeys : textBytes "map_id" + textBytes "version_id" + textBytes "version" +
      textBytes "content_sha256" = 45 := rfl
  have hserverKeys : textBytes "build" + textBytes "protocol" = 17 := rfl
  have hround := textBytes_uuid h.roundId
  have hcompleted := textBytes_toISOString row.completedAt
  have hcontext : textBytes "normal" = 8 ∧ textBytes "tournament" = 12 := ⟨rfl, rfl⟩
  have hmode : textBytes row.columns.mode.text ≤ 11 := by
    cases row.columns.mode <;> decide +kernel
  have hschema := textBytes_code h.resultSchema
  have hscoring := textBytes_code h.scoringRules
  have hmapId := textBytes_uuid h.mapId
  have hversionId := textBytes_uuid h.mapVersionId
  have hversion := textBytes_bounded h.mapVersion
  have hcontent := textBytes_sha256 h.mapContent
  have hbuild := textBytes_bounded h.build
  have hprotocol := textBytes_code h.protocol
  have hside : textBytes row.winningSide ≤ 9 := by
    have hsides : ∀ side ∈ ["hiders", "hunters", "none"], textBytes side ≤ 9 := by decide +kernel
    exact hsides _ (by simpa using h.winningSide)
  have hsha := textBytes_sha256 h.resultSha256
  have htournament : ∀ id ∈ row.columns.tournamentId, textBytes id = 38 := fun id hid =>
    textBytes_uuid (h.tournament id hid)
  rw [CandidateRow.base]
  cases hid : row.columns.tournamentId with
  | none =>
    simp only [Option.toList_none, List.map_nil, List.append_nil, List.cons_append, List.nil_append,
      reduceIte, Json.weight, weightFields]
    omega
  | some id =>
    have hidBytes := htournament id hid
    simp only [Option.toList_some, List.map_cons, List.map_nil, List.cons_append, List.nil_append,
      reduceCtorEq, reduceIte, Json.weight, weightFields]
    omega

/-- **The bytes of the object of a stored result.** -/
theorem weight_stored_le (hrows : PublishedRows input pub) (hvalid : ValidTerminalResult G input)
    (hids : ValidIdentities pub input)
    (hfields : FieldsAccepted J (storedRow pub input canonicalSha256)) :
    (storedRow pub input canonicalSha256).base.weight ≤ 4163 := by
  have hbase := weight_base_le hfields
  have hcount := hvalid.count
  have hnodup := hids.nodup_accounts hvalid
  have haccountsWith (outcomes : List ParticipantOutcome) :
      (Json.array ((accountsWith pub input.roundId outcomes).map Json.string)).weight ≤ 192 := by
    have hsubset := hrows.accountsWith_subset outcomes
    have hlength := length_le_of_subset (hrows.nodup_accountsWith hnodup outcomes) hsubset
    exact weight_accounts_le (by omega) fun name hname => hids.of_mem (hsubset hname)
  have hwinners : (storedRow pub input canonicalSha256).winnerAccounts.weight ≤ 192 := haccountsWith _
  have hsurvivors : (storedRow pub input canonicalSha256).survivors.weight ≤ 192 := haccountsWith _
  have hparticipants : (storedRow pub input canonicalSha256).participants.weight ≤ 1322 := by
    have hitems : weightItems ((players pub input.roundId).map (participantObject pub)) ≤
        _ * (131 + 1) := weightItems_le fun item hitem => by
        obtain ⟨p, hp, rfl⟩ := List.mem_map.mp hitem
        obtain ⟨q, hq, rfl⟩ := hrows.mem_players.mp hp
        exact weight_participantObject_le (hvalid.participant q hq) (hrows.scores q hq)
          (hids.account q hq)
    rw [List.length_map, hrows.participantRows.length_eq, List.length_map] at hitems
    show weightItems _ + 2 ≤ 1322
    omega
  have hdiscoveries : (storedRow pub input canonicalSha256).discoveries.weight ≤ 582 := by
    have hlength := hrows.length_discoveries hvalid
    have hitems : weightItems ((roundDiscoveries pub input.roundId).map (discoveryObject pub)) ≤
        _ * (57 + 1) := weightItems_le fun item hitem => by
        obtain ⟨d, hd, rfl⟩ := List.mem_map.mp hitem
        obtain ⟨hhunter, hhider⟩ := hrows.discovery_accounts hvalid hd
        exact weight_discoveryObject_le (hids.of_mem hhunter) (hids.of_mem hhider)
    rw [List.length_map] at hitems
    show weightItems _ + 2 ≤ 582
    omega
  have hlikes : (storedRow pub input canonicalSha256).likes.weight ≤ 452 := by
    have hsubset := hrows.likeAccounts_subset hvalid
    have hlength := length_le_of_subset nodup_likeAccounts hsubset
    have hitems : weightItems ((likeAccounts pub input.roundId).map (likeObject pub input.roundId)) ≤
        _ * (44 + 1) := weightItems_le fun item hitem => by
        obtain ⟨account, haccount, rfl⟩ := List.mem_map.mp hitem
        exact weight_likeObject_le (hids.of_mem (hsubset haccount))
          (hrows.count_le hvalid hids account)
    rw [List.length_map] at hitems
    show weightItems _ + 2 ≤ 452
    omega
  omega

/-- The event with one candidate. -/
theorem weight_createEvent_le {candidate : MatchPublicationCandidate}
    {publisher eventId batchId : String} {occurredAt periodStart periodEnd : ℤ}
    (hpublisher : Gateway.hiveAccountSchema publisher = true) (heventId : isUuidV7 eventId = true)
    (hbatchId : isUuidV7 batchId = true) :
    (createEvent [candidate] publisher eventId batchId (toISOString occurredAt)
      (toISOString periodStart) (toISOString periodEnd)).weight ≤
        candidate.publicResult.weight + 359 := by
  have hkeys : textBytes "v" + textBytes "type" + textBytes "event_version" + textBytes "event_id" +
      textBytes "occurred_at" + textBytes "data" = 53 := rfl
  have hdataKeys : textBytes "batch_id" + textBytes "period_start" + textBytes "period_end" +
      textBytes "publisher" + textBytes "result_count" + textBytes "results" = 70 := rfl
  have htype : textBytes "match_results_batch" = 21 := rfl
  have hone : "1".utf8ByteSize = 1 ∧ (toString 1).utf8ByteSize = 1 := ⟨rfl, rfl⟩
  have heventBytes := textBytes_uuid heventId
  have hbatchBytes := textBytes_uuid hbatchId
  have hpublisherBytes := textBytes_account hpublisher
  have hoccurred := textBytes_toISOString occurredAt
  have hstart := textBytes_toISOString periodStart
  have hend := textBytes_toISOString periodEnd
  simp only [createEvent, Json.weight, weightFields, weightItems, List.map_cons, List.map_nil,
    List.length_cons, List.length_nil, Nat.zero_add]
  omega

/-! ### Expressible results -/

/-- The query returns a row for the request, `candidateFromRow` accepts it, and the batch with this one
result fits the payload of an event. -/
def Expressible (J : JsRuntime) (pub : PublisherDb) (request : PublicationRequestRow) : Prop :=
  ∃ row candidate, candidateRow pub request = some row ∧ candidateFromRow J row = .ok candidate ∧
    ∀ publisher eventId batchId occurredAt periodStart periodEnd,
      Gateway.hiveAccountSchema publisher = true → isUuidV7 eventId = true → isUuidV7 batchId = true →
      (canonicalJson (createEvent [candidate] publisher eventId batchId (toISOString occurredAt)
        (toISOString periodStart) (toISOString periodEnd))).utf8ByteSize ≤ hiveChameleonMaxPayloadBytes

/-- A batch is the same with the object that was checked in the place of what the schema handed on. -/
theorem createEvent_same {candidate : MatchPublicationCandidate} {v : Json}
    (h : candidate.publicResult.Same v)
    (publisher eventId batchId occurredAt periodStart periodEnd : String) :
    (createEvent [candidate] publisher eventId batchId occurredAt periodStart periodEnd).Same
      (createEvent [{ candidate with publicResult := v }] publisher eventId batchId occurredAt
        periodStart periodEnd) := by
  have hnormal : candidate.publicResult.normal = v.normal := h
  simp only [Json.Same, createEvent, Json.normal, normalFields, normalItems, List.map_cons,
    List.map_nil, hnormal, List.length_cons, List.length_nil]

theorem expressible_iff_of_stored {db : GameDb} (hstored : Stored input canonicalSha256 db pub.game)
    (hrows : PublishedRows input pub) (hvalid : ValidTerminalResult G input)
    (hids : ValidIdentities pub input) (hsha : Gateway.sha256Schema canonicalSha256 = true) :
    Expressible J pub (initialRequestRow input) ↔
      Gateway.controlledCodeSchema input.resultSchemaVersion = true ∧
        Gateway.controlledCodeSchema input.scoringRuleVersion = true ∧
        J.datetime (toISOString (pub.date input.endedAt)) = true := by
  have hrow := candidateRow_of_stored hstored
  rw [← candidateFromRow_stored hrows hvalid hids hsha]
  constructor
  · rintro ⟨row, candidate, hquery, hcandidate, -⟩
    rw [hrow] at hquery
    obtain rfl := Option.some.inj hquery
    exact ⟨candidate, hcandidate⟩
  · rintro ⟨candidate, hcandidate⟩
    refine ⟨_, candidate, hrow, hcandidate, ?_⟩
    intro publisher eventId batchId occurredAt periodStart periodEnd hpublisher heventId hbatchId
    have hfields := (fieldsAccepted_stored hrows hvalid hids hsha).mpr
      ((candidateFromRow_stored hrows hvalid hids hsha).mp ⟨candidate, hcandidate⟩)
    have hsame : candidate.publicResult.Same (storedRow pub input canonicalSha256).base := by
      rw [candidateFromRow] at hcandidate
      cases hparse : (matchResultSchema J).parse (storedRow pub input canonicalSha256).base with
      | none =>
        rw [hparse] at hcandidate
        cases hcandidate
      | some data =>
        rw [hparse] at hcandidate
        obtain rfl := Except.ok.inj hcandidate
        exact verbatim_matchResultSchema J _ _ hparse
    rw [canonicalJson_congr (createEvent_same hsame _ _ _ _ _ _)]
    have hbytes := utf8ByteSize_canonicalJson_le (createEvent
      [{ candidate with publicResult := (storedRow pub input canonicalSha256).base }] publisher eventId
      batchId (toISOString occurredAt) (toISOString periodStart) (toISOString periodEnd))
    have hevent : (createEvent
        [{ candidate with publicResult := (storedRow pub input canonicalSha256).base }] publisher eventId
        batchId (toISOString occurredAt) (toISOString periodStart) (toISOString periodEnd)).weight ≤
          (storedRow pub input canonicalSha256).base.weight + 359 :=
      weight_createEvent_le hpublisher heventId hbatchId
    have hresult := weight_stored_le hrows hvalid hids hfields
    have hmax : hiveChameleonMaxPayloadBytes = 6144 := rfl
    rw [hmax]
    omega

/-- The versions that `StartRound` writes are codes of the protocol. -/
theorem controlledCodeSchema_startVersions :
    Gateway.controlledCodeSchema Nakama.resultSchemaVersion = true ∧
      Gateway.controlledCodeSchema Nakama.scoringRuleVersion = true := by decide

/-- **Which stored results of a started round the public protocol can express**: those whose end lies in
the years of a timestamp of four digits. -/
theorem stored_result_expressible_iff {db₀ db : GameDb} {ts : List (Transition GameDb GameCall)}
    (hclean : Clean db₀) (hversions : StartVersions db₀) (hrun : Run (GameStep G) db₀ ts db)
    (hcommit : commitTerminalResult G input db = (.ok .committed, pub.game))
    (hids : ValidIdentities pub input)
    (hsha : Gateway.sha256Schema (G.sha256Hex input.canonicalCompleteResult) = true)
    (hdatetime : ∀ ms, J.datetime (toISOString ms) = true ↔ 0 ≤ isoYear ms ∧ isoYear ms ≤ 9999) :
    Expressible J pub (initialRequestRow input) ↔
      0 ≤ isoYear (pub.date input.endedAt) ∧ isoYear (pub.date input.endedAt) ≤ 9999 := by
  have hcleanNow : Clean db := (hrun.invariant' (fun _ _ _ hm hl => clean_step hm hl) hclean).1
  have hversionsNow : StartVersions db :=
    (hrun.invariant' (fun _ _ _ hm hl => startVersions_step hm hl) hversions).1
  obtain ⟨hvalid, hstored⟩ := stored_of_committed hcommit
  obtain ⟨round, hround, hschema, hscoring⟩ := versions_of_committed hcommit
  rw [expressible_iff_of_stored hstored (publishedRows_of_stored hstored hcleanNow) hvalid hids hsha,
    hdatetime, ← hschema, ← hscoring, (hversionsNow round hround).1, (hversionsNow round hround).2]
  simp only [controlledCodeSchema_startVersions, true_and]

end

/-! ### One hunter and one hider -/

theorem some_url_stable (s t : String) (_ : some s = some t) : some t = some t := rfl

/-- A runtime that accepts the timestamps of 24 characters. -/
def isoJs : JsRuntime where
  numberText := id
  datetime text := text.toList.length == 24
  dateParse _ := 0
  url text := some text
  isHttps text := "https://".toList.isPrefixOf text.toList
  url_stable := some_url_stable

theorem datetime_isoJs (ms : ℤ) :
    isoJs.datetime (toISOString ms) = true ↔ 0 ≤ isoYear ms ∧ isoYear ms ≤ 9999 := by
  rw [← length_toISOString]
  exact beq_iff_eq

def twoPlayerColumns : RoundColumns where
  mode := .casual
  mapId := "01890f3e-0000-7000-8000-0000000000c1"
  mapVersionId := "01890f3e-0000-7000-8000-0000000000c2"
  mapVersion := "1"
  mapContentSha256 := "44136fa355b3678a1146ad16f7e8649e94fb4fc21fe77e8310c060f61caaff8a"
  gameServerBuildVersion := "0.1.0"
  protocolVersion := "match-1"
  tournamentId := none

def twoPlayerName (playerId : String) : String :=
  if playerId = "01890f3e-0000-7000-8000-0000000000a1" then "hunter" else "hider"

/-- The tables of the match server, with the map and the names of the two players. -/
def twoPlayerPublisher (game : GameDb) : PublisherDb where
  game := game
  columns _ := twoPlayerColumns
  hiveUsername := twoPlayerName
  date time := time

theorem validIdentities_twoPlayer (game : GameDb) (endedAt : Time) :
    ValidIdentities (twoPlayerPublisher game) { twoPlayerResult with endedAt := endedAt } where
  account := show ∀ p ∈ twoPlayerResult.participants,
    Gateway.hiveAccountSchema (twoPlayerName p.playerId) = true by decide +kernel
  distinct := show ∀ p ∈ twoPlayerResult.participants, ∀ q ∈ twoPlayerResult.participants,
    twoPlayerName p.playerId = twoPlayerName q.playerId → p.playerId = q.playerId by decide +kernel
  mapId := show isUuidV7 twoPlayerColumns.mapId = true by decide +kernel
  mapVersionId := show isUuidV7 twoPlayerColumns.mapVersionId = true by decide +kernel
  mapVersion := show boundedLength 1 32 twoPlayerColumns.mapVersion = true by decide +kernel
  mapContent := show Gateway.sha256Schema twoPlayerColumns.mapContentSha256 = true by decide +kernel
  build := show boundedLength 1 64 twoPlayerColumns.gameServerBuildVersion = true by decide +kernel
  protocol := show Gateway.controlledCodeSchema twoPlayerColumns.protocolVersion = true by
    decide +kernel
  tournament _ h := by cases h

theorem clean_presetHashRound : Clean presetHashRound :=
  .of_empty (by decide) (by decide) (by decide)

theorem startVersions_presetHashRound : StartVersions presetHashRound := by
  have hrows : ∀ round ∈ presetHashRound.gameRound.rows,
      round.resultSchemaVersion = resultSchemaVersion ∧
        round.scoringRuleVersion = scoringRuleVersion := by decide
  exact hrows

theorem stored_result_expressible_two_players :
    Expressible isoJs
        (twoPlayerPublisher (commitTerminalResult jsonObjectRuntime twoPlayerResult presetHashRound).2)
        (initialRequestRow twoPlayerResult) ↔ 0 ≤ isoYear 5000 ∧ isoYear 5000 ≤ 9999 :=
  stored_result_expressible_iff clean_presetHashRound startVersions_presetHashRound
    (show Run (GameStep jsonObjectRuntime) _ [] _ from Run.refl _) (Prod.ext (by decide) rfl)
    (validIdentities_twoPlayer _ _) (by decide) datetime_isoJs

/-- The result of the two players, ended with the year 10000. -/
def lateResult : TerminalResultCommit := { twoPlayerResult with endedAt := 253402300800000 }

/-- The recorder stores the result, and the publisher refuses it. -/
theorem late_result_not_expressible :
    Clean presetHashRound ∧ StartVersions presetHashRound ∧
      (commitTerminalResult jsonObjectRuntime lateResult presetHashRound).1 = .ok .committed ∧
      ValidIdentities
        (twoPlayerPublisher (commitTerminalResult jsonObjectRuntime lateResult presetHashRound).2)
        lateResult ∧
      ¬ Expressible isoJs
        (twoPlayerPublisher (commitTerminalResult jsonObjectRuntime lateResult presetHashRound).2)
        (initialRequestRow lateResult) := by
  have hids := validIdentities_twoPlayer
    (commitTerminalResult jsonObjectRuntime lateResult presetHashRound).2 lateResult.endedAt
  have hcommit : commitTerminalResult jsonObjectRuntime lateResult presetHashRound =
      (.ok .committed, (twoPlayerPublisher
        (commitTerminalResult jsonObjectRuntime lateResult presetHashRound).2).game) :=
    Prod.ext (by decide) rfl
  refine ⟨clean_presetHashRound, startVersions_presetHashRound, congrArg Prod.fst hcommit, hids,
    fun hexpressible => ?_⟩
  obtain ⟨hvalid, hstored⟩ := stored_of_committed hcommit
  have hyear := ((expressible_iff_of_stored hstored
    (publishedRows_of_stored hstored clean_presetHashRound) hvalid hids (by decide)).mp
      hexpressible).2.2
  have hlate : isoYear lateResult.endedAt = 10000 := by decide
  have hlast := ((datetime_isoJs _).mp hyear).2
  change isoYear lateResult.endedAt ≤ 9999 at hlast
  omega

end HiveChameleon.Publisher.PublicMatch
