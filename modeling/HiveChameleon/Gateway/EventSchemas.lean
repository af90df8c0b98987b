import HiveChameleon.Gateway.Zod

/-!
# Gateway.EventSchemas — the schemas of the events

`protocol/common.ts`, `match.ts`, `collectible.ts` and the union of `events.ts`.  The checks of a date
and of a URL are those of the schema library and of the JavaScript runtime.
-/

namespace HiveChameleon.Gateway

open Lib

/-- What the JavaScript runtime and the schema library make of texts. -/
structure JsRuntime where
  /-- `Number::toString` of the double that a numeral denotes, where it is no plain number. -/
  numberText : String → String
  /-- `z.string().datetime({ offset: true })` -/
  datetime : String → Bool
  /-- `Date.parse` of such a text. -/
  dateParse : String → ℤ
  /-- `z.string().url()`: the text that it hands on, without white space around it. -/
  url : String → Option String
  /-- The protocol of the URL is HTTPS, and it has no user and no password. -/
  isHttps : String → Bool
  /-- A URL that was handed on is handed on as it is. -/
  url_stable : ∀ s t, url s = some t → url t = some t

/-! ### `common.ts` -/

def isHexDigit (c : Char) : Bool := isDigit c || ('a' ≤ c && c ≤ 'f')

/-- `x` stands for a digit, `y` for one of `8`, `9`, `a` and `b`. -/
def matchesUuid (template c : Char) : Bool :=
  if template = 'x' then isHexDigit c
  else if template = 'y' then c == '8' || c == '9' || c == 'a' || c == 'b'
  else c == template

def isUuidV7 (text : String) : Bool :=
  let template := "xxxxxxxx-xxxx-7xxx-yxxx-xxxxxxxxxxxx".toList
  text.toList.length == 36 && (template.zip text.toList).all fun p => matchesUuid p.1 p.2

/-- `/^(0|[1-9][0-9]*)\.[0-9]{4}$/` -/
def isFixedScore (text : String) : Bool :=
  let whole := text.toList.takeWhile isDigit
  (whole == ['0'] || whole.head?.any fun c => c ≠ '0') &&
    match text.toList.dropWhile isDigit with
    | '.' :: fraction => fraction.length == 4 && fraction.all isDigit
    | _ => false

/-- `z.string().min(min).max(max)` -/
def boundedLength (min max : ℕ) (text : String) : Bool :=
  min ≤ utf16Length text && utf16Length text ≤ max

namespace EventSchema

open Schema

def uuidV7Schema : Schema := stringOf isUuidV7

def sha256Schema : Schema := stringOf Gateway.sha256Schema

def hiveAccountSchema : Schema := stringOf Gateway.hiveAccountSchema

def fixedScoreSchema : Schema := stringOf isFixedScore

def controlledCodeSchema : Schema := stringOf Gateway.controlledCodeSchema

def one : Schema := integer 1 1

section

variable (J : JsRuntime)

def isoTimestampSchema : Schema := stringOf J.datetime

def httpsUrl (text : String) : Option String :=
  match J.url text with
  | some url => if J.isHttps url then some url else none
  | none => none

theorem httpsUrl_stable (s t : String) (h : httpsUrl J s = some t) : httpsUrl J t = some t := by
  rw [httpsUrl] at h
  cases hurl : J.url s with
  | none =>
    rw [hurl] at h
    cases h
  | some url =>
    simp only [hurl] at h
    by_cases hhttps : J.isHttps url = true
    · rw [if_pos hhttps] at h
      obtain rfl := Option.some.inj h
      rw [httpsUrl, J.url_stable s url hurl]
      exact if_pos hhttps
    · rw [if_neg hhttps] at h
      cases h

def httpsUrlSchema : Schema := string (httpsUrl J) (httpsUrl_stable J)

/-! ### `match.ts` -/

def matchParticipantSchema : Schema := strictObject [
  ("account", required hiveAccountSchema),
  ("initial_role", required (enum ["hider", "hunter"])),
  ("final_role", required (enum ["hider", "hunter"])),
  ("outcome", required (enum ["survived", "found", "converted", "hunter_win", "hunter_loss"])),
  ("score", required fixedScoreSchema)] (by simp)

def discoverySchema : Schema := strictObject [
  ("hunter", required hiveAccountSchema),
  ("hider", required hiveAccountSchema)] (by simp)

def likeAggregateSchema : Schema := strictObject [
  ("account", required hiveAccountSchema),
  ("received", required (integer 0 9))] (by simp)

def resultMapSchema : Schema := strictObject [
  ("map_id", required uuidV7Schema),
  ("version_id", required uuidV7Schema),
  ("version", required (stringOf (boundedLength 1 32))),
  ("content_sha256", required sha256Schema)] (by simp)

def resultServerSchema : Schema := strictObject [
  ("build", required (stringOf (boundedLength 1 64))),
  ("protocol", required controlledCodeSchema)] (by simp)

def matchResultShape : Schema := strictObject [
  ("round_id", required uuidV7Schema),
  ("completed_at", required (isoTimestampSchema J)),
  ("context", required (enum ["normal", "tournament"])),
  ("tournament_id", optional uuidV7Schema),
  ("mode", required (enum ["casual", "infection"])),
  ("result_schema", required controlledCodeSchema),
  ("scoring_rules", required controlledCodeSchema),
  ("map", required resultMapSchema),
  ("server", required resultServerSchema),
  ("winning_side", required (enum ["hiders", "hunters", "none"])),
  ("winner_accounts", required (array 0 10 hiveAccountSchema)),
  ("participants", required (array 1 10 matchParticipantSchema)),
  ("discoveries", required (array 0 45 discoverySchema)),
  ("survivors", required (array 0 10 hiveAccountSchema)),
  ("likes", required (array 0 10 likeAggregateSchema)),
  ("result_sha256", required sha256Schema)] (by simp)

/-- One text of each item of an array of objects. -/
def pluck (v : Json) (key inner : String) : List (Option String) :=
  (v.items key).map fun item => item.text inner

/-- The `superRefine` of `matchResultSchema`. -/
def MatchResultRules (result : Json) : Prop :=
  let participantAccounts := pluck result "participants" "account"
  (result.text "context" = some "tournament" → (result.get "tournament_id").isSome = true) ∧
    (result.text "context" = some "normal" → (result.get "tournament_id").isSome = false) ∧
    participantAccounts.Nodup ∧ (result.texts "winner_accounts").Nodup ∧
    (result.texts "survivors").Nodup ∧ (pluck result "likes" "account").Nodup ∧
    (∀ account ∈ result.texts "winner_accounts", account ∈ participantAccounts) ∧
    (∀ account ∈ result.texts "survivors", account ∈ participantAccounts) ∧
    (∀ account ∈ pluck result "likes" "account", account ∈ participantAccounts) ∧
    (∀ account ∈ pluck result "discoveries" "hunter", account ∈ participantAccounts) ∧
    (∀ account ∈ pluck result "discoveries" "hider", account ∈ participantAccounts) ∧
    (result.text "winning_side" = some "none" → result.texts "winner_accounts" = [])

instance (result : Json) : Decidable (MatchResultRules result) :=
  inferInstanceAs (Decidable (_ ∧ _ ∧ _ ∧ _ ∧ _ ∧ _ ∧ _ ∧ _ ∧ _ ∧ _ ∧ _ ∧ _))

theorem pluck_normal (v : Json) (key inner : String) : pluck v.normal key inner = pluck v key inner := by
  rw [pluck, pluck, Json.items_normal, List.map_map]
  exact congrArg (fun f => List.map f _) (funext fun item => item.text_normal inner)

theorem matchResultRules_normal (result : Json) :
    MatchResultRules result.normal ↔ MatchResultRules result := by
  simp only [MatchResultRules, pluck_normal, Json.text_normal, Json.texts_normal,
    Json.isSome_get_normal]

def matchResultSchema : Schema :=
  (matchResultShape J).refine (fun result => decide (MatchResultRules result))
    (Json.respects_of_normal fun result => decide_eq_decide.mpr (matchResultRules_normal result))

/-- The fields of an event of version 1 around its data. -/
def matchEvent (type : String) (data : Schema) : Schema := strictObject [
  ("v", required one),
  ("type", required (literal type)),
  ("event_version", required one),
  ("event_id", required uuidV7Schema),
  ("occurred_at", required (isoTimestampSchema J)),
  ("data", required data)] (by simp)

def data (event : Json) : Json := (event.get "data").getD .null

/-- The time of a text of an object. -/
def date (v : Json) (key : String) : ℤ := J.dateParse ((v.text key).getD "")

/-- The `superRefine` of `matchBatchSchema`. -/
def MatchBatchRules (event : Json) : Prop :=
  let results := ((data event).items "results").map fun result =>
    (date J result "completed_at", (result.text "round_id").getD "")
  let periodStart := date J (data event) "period_start"
  let periodEnd := date J (data event) "period_end"
  ((data event).get "result_count").bind Json.asNumber = some (toString results.length) ∧
    periodStart < periodEnd ∧
    (∀ result ∈ results, periodStart ≤ result.1 ∧ result.1 < periodEnd) ∧
    (∀ pair ∈ results.zip results.tail,
      ¬ (pair.2.1 < pair.1.1 ∨ (pair.1.1 = pair.2.1 ∧ pair.2.2 < pair.1.2))) ∧
    (results.map Prod.snd).Nodup

instance (event : Json) : Decidable (MatchBatchRules J event) :=
  inferInstanceAs (Decidable (_ ∧ _ ∧ _ ∧ _ ∧ _))

theorem data_normal (event : Json) : data event.normal = (data event).normal := by
  rw [data, data, Json.get_normal]
  cases event.get "data" <;> rfl

theorem date_normal (v : Json) (key : String) : date J v.normal key = date J v key := by
  rw [date, date, Json.text_normal]

theorem matchBatchRules_normal (event : Json) :
    MatchBatchRules J event.normal ↔ MatchBatchRules J event := by
  have hcount : ((data event).normal.get "result_count").bind Json.asNumber =
      ((data event).get "result_count").bind Json.asNumber := by
    rw [Json.get_normal, Option.bind_map]
    exact congrArg (Option.bind _) (funext Json.asNumber_normal)
  have hresults : ((data event).normal.items "results").map (fun result =>
        (date J result "completed_at", (result.text "round_id").getD "")) =
      ((data event).items "results").map fun result =>
        (date J result "completed_at", (result.text "round_id").getD "") := by
    rw [Json.items_normal, List.map_map]
    refine congrArg (fun f => List.map f _) (funext fun result => ?_)
    rw [Function.comp_apply, date_normal, Json.text_normal]
  simp only [MatchBatchRules, data_normal, hcount, hresults, date_normal]

def matchBatchData : Schema := strictObject [
  ("batch_id", required uuidV7Schema),
  ("period_start", required (isoTimestampSchema J)),
  ("period_end", required (isoTimestampSchema J)),
  ("publisher", required hiveAccountSchema),
  ("result_count", required (integer 1 20)),
  ("results", required (array 1 20 (matchResultSchema J)))] (by simp)

def matchBatchSchema : Schema :=
  (matchEvent J "match_results_batch" (matchBatchData J)).refine
    (fun event => decide (MatchBatchRules J event))
    (Json.respects_of_normal fun event => decide_eq_decide.mpr (matchBatchRules_normal J event))

/-- The fields that a correction and an invalidation share. -/
def matchChangeFields : List (String × Field) := [
  ("round_id", required uuidV7Schema),
  ("original_batch_id", required uuidV7Schema),
  ("original_event_id", required uuidV7Schema),
  ("supersedes_event_id", required uuidV7Schema),
  ("publisher", required hiveAccountSchema),
  ("reason_code", required controlledCodeSchema)]

def matchCorrectionData : Schema :=
  strictObject (matchChangeFields ++ [("replacement_result", required (matchResultSchema J))])
    (by simp [matchChangeFields])

/-- The `superRefine` of `matchCorrectionSchema`. -/
def MatchCorrectionRules (event : Json) : Prop :=
  (((data event).get "replacement_result").getD .null).text "round_id" = (data event).text "round_id"

instance (event : Json) : Decidable (MatchCorrectionRules event) :=
  inferInstanceAs (Decidable (_ = _))

theorem matchCorrectionRules_normal (event : Json) :
    MatchCorrectionRules event.normal ↔ MatchCorrectionRules event := by
  have hresult : ((data event).normal.get "replacement_result").getD .null =
      (((data event).get "replacement_result").getD .null).normal := by
    rw [Json.get_normal]
    cases (data event).get "replacement_result" <;> rfl
  simp only [MatchCorrectionRules, data_normal, hresult, Json.text_normal]

def matchCorrectionSchema : Schema :=
  (matchEvent J "match_result_corrected" (matchCorrectionData J)).refine
    (fun event => decide (MatchCorrectionRules event))
    (Json.respects_of_normal fun event => decide_eq_decide.mpr (matchCorrectionRules_normal event))

def matchInvalidationSchema : Schema :=
  matchEvent J "match_result_invalidated" (strictObject matchChangeFields (by simp [matchChangeFields]))

/-! ### `collectible.ts` -/

/-- `/^[a-z0-9][a-z0-9._-]{2,127}$/` -/
def isDefinitionId (text : String) : Bool :=
  3 ≤ text.length && text.length ≤ 128 &&
    text.toList.head?.any (fun c => isLowerLetter c || isDigit c) &&
    text.toList.all fun c => isLowerLetter c || isDigit c || c == '.' || c == '_' || c == '-'

/-- The fields of an event without `event_version`. -/
def collectibleEvent (type : String) (data : Schema) : Schema := strictObject [
  ("v", required one),
  ("type", required (literal type)),
  ("event_id", required uuidV7Schema),
  ("occurred_at", required (isoTimestampSchema J)),
  ("data", required data)] (by simp)

def collectibleIssuedData : Schema := strictObject [
  ("collectible_id", required uuidV7Schema),
  ("definition_id", required (stringOf isDefinitionId)),
  ("kind", required (enum ["badge", "weapon_skin", "character_material", "lobby_emote",
    "profile_frame", "victory_effect"])),
  ("owner", required hiveAccountSchema),
  ("issuer", required hiveAccountSchema),
  ("reason", required controlledCodeSchema),
  ("metadata_uri", required (httpsUrlSchema J)),
  ("metadata_sha256", required sha256Schema),
  ("payment_tx_id", optional (stringOf (boundedLength 1 128)))] (by simp)

def collectibleIssuedSchema : Schema := collectibleEvent J "collectible_issued" (collectibleIssuedData J)

def collectibleRevokedData : Schema := strictObject [
  ("collectible_id", required uuidV7Schema),
  ("issued_event_id", required uuidV7Schema),
  ("reason_code", required controlledCodeSchema)] (by simp)

def collectibleRevokedSchema : Schema :=
  collectibleEvent J "collectible_revoked" collectibleRevokedData

/-! ### `events.ts` -/

theorem tagged_matchEvent (type : String) (data : Schema) :
    (matchEvent J type data).Tagged "type" type :=
  tagged_strictObject (List.mem_cons_of_mem _ (List.mem_cons_self ..))

theorem tagged_collectibleEvent (type : String) (data : Schema) :
    (collectibleEvent J type data).Tagged "type" type :=
  tagged_strictObject (List.mem_cons_of_mem _ (List.mem_cons_self ..))

def eventOptions : List (String × Schema) := [
  ("match_results_batch", matchBatchSchema J),
  ("match_result_corrected", matchCorrectionSchema J),
  ("match_result_invalidated", matchInvalidationSchema J),
  ("collectible_issued", collectibleIssuedSchema J),
  ("collectible_revoked", collectibleRevokedSchema J)]

theorem tagged_matchBatchSchema : (matchBatchSchema J).Tagged "type" "match_results_batch" :=
  Tagged.refine (tagged_matchEvent J _ _)

theorem tagged_matchCorrectionSchema :
    (matchCorrectionSchema J).Tagged "type" "match_result_corrected" :=
  Tagged.refine (tagged_matchEvent J _ _)

theorem tagged_eventOptions : ∀ option ∈ eventOptions J, option.2.Tagged "type" option.1 := by
  simp only [eventOptions, List.forall_mem_cons]
  exact ⟨tagged_matchBatchSchema J, tagged_matchCorrectionSchema J, tagged_matchEvent J _ _,
    tagged_collectibleEvent J _ _, tagged_collectibleEvent J _ _, fun _ h => (by cases h)⟩

def hiveChameleonEventSchema : Schema :=
  discriminatedUnion "type" (eventOptions J) (tagged_of_mem (tagged_eventOptions J))

end

end EventSchema

end HiveChameleon.Gateway
