import HiveChameleon.Gateway.EventSchemas

/-!
# Gateway.EventReading — the events that the schema accepts

Every value that the schema hands on is an event of the type: it has the fields that the services read,
and they satisfy what the type says of them.
-/

namespace HiveChameleon.Gateway

open Lib

/-! ### Fields -/

def uuidOf (text : String) : Uuid := ⟨parseHex (text.toList.filter fun c => c ≠ '-')⟩

def accountOf (name : String) : Option HiveAccount :=
  if h : hiveAccountSchema name = true then some ⟨name, h⟩ else none

def codeOf (code : String) : Option ControlledCode :=
  if h : controlledCodeSchema code = true then some ⟨code, h⟩ else none

def sha256Of (hex : String) : Option Sha256 :=
  if h : sha256Schema hex = true then some ⟨hex, h⟩ else none

def kindOf (text : String) : Option CollectibleKind :=
  if text = "badge" then some .badge
  else if text = "weapon_skin" then some .weaponSkin
  else if text = "character_material" then some .characterMaterial
  else if text = "lobby_emote" then some .lobbyEmote
  else if text = "profile_frame" then some .profileFrame
  else if text = "victory_effect" then some .victoryEffect
  else none

namespace Json

def uuid (v : Json) (key : String) : Option Uuid := (v.text key).map uuidOf

def timestamp (v : Json) (key : String) : Option IsoTimestamp := (v.text key).map IsoTimestamp.mk

def account (v : Json) (key : String) : Option HiveAccount := (v.text key).bind accountOf

def code (v : Json) (key : String) : Option ControlledCode := (v.text key).bind codeOf

def sha256 (v : Json) (key : String) : Option Sha256 := (v.text key).bind sha256Of

/-- The natural number of a property. -/
def nat (v : Json) (key : String) : Option ℕ :=
  ((v.get key).bind asNumber).map fun text => Nat.ofDigitChars 10 text.toList 0

end Json

/-- Reads every item. -/
def readAll {α : Type} (read : Json → Option α) : List Json → Option (List α)
  | [] => some []
  | item :: items => do
    let a ← read item
    let rest ← readAll read items
    pure (a :: rest)

/-! ### Events -/

def readMap (v : Json) : Option MatchResultMap := do
  let mapId ← v.uuid "map_id"
  let versionId ← v.uuid "version_id"
  let contentSha256 ← v.sha256 "content_sha256"
  pure ⟨mapId, versionId, contentSha256⟩

def readServer (v : Json) : Option MatchResultServer := do
  let build ← v.text "build"
  let protocol ← v.code "protocol"
  if h : 1 ≤ build.length ∧ build.length ≤ 64 then some ⟨build, protocol, h⟩ else none

def readMatchResult (v : Json) : Option MatchResult := do
  let roundId ← v.uuid "round_id"
  let resultSchema ← v.code "result_schema"
  let scoringRules ← v.code "scoring_rules"
  let map ← (v.get "map").bind readMap
  let server ← (v.get "server").bind readServer
  let resultSha256 ← v.sha256 "result_sha256"
  pure ⟨roundId, resultSchema, scoringRules, map, server, resultSha256⟩

def readMatchResultsBatch (v : Json) : Option MatchResultsBatch := do
  let eventId ← v.uuid "event_id"
  let occurredAt ← v.timestamp "occurred_at"
  let data ← v.get "data"
  let batchId ← data.uuid "batch_id"
  let periodStart ← data.timestamp "period_start"
  let periodEnd ← data.timestamp "period_end"
  let publisher ← data.account "publisher"
  let resultCount ← data.nat "result_count"
  let results ← readAll readMatchResult (data.items "results")
  if h : resultCount = results.length ∧ (1 ≤ results.length ∧ results.length ≤ 20) ∧
      (results.map (·.roundId)).Nodup then
    some ⟨eventId, occurredAt, batchId, periodStart, periodEnd, publisher, resultCount, results, h.1,
      h.2.1, h.2.2⟩
  else none

def readMatchResultCorrected (v : Json) : Option MatchResultCorrected := do
  let eventId ← v.uuid "event_id"
  let occurredAt ← v.timestamp "occurred_at"
  let data ← v.get "data"
  let roundId ← data.uuid "round_id"
  let originalBatchId ← data.uuid "original_batch_id"
  let originalEventId ← data.uuid "original_event_id"
  let supersedesEventId ← data.uuid "supersedes_event_id"
  let publisher ← data.account "publisher"
  let reasonCode ← data.code "reason_code"
  let replacementResult ← (data.get "replacement_result").bind readMatchResult
  if h : replacementResult.roundId = roundId then
    some ⟨eventId, occurredAt, roundId, originalBatchId, originalEventId, supersedesEventId, publisher,
      reasonCode, replacementResult, h⟩
  else none

def readMatchResultInvalidated (v : Json) : Option MatchResultInvalidated := do
  let eventId ← v.uuid "event_id"
  let occurredAt ← v.timestamp "occurred_at"
  let data ← v.get "data"
  let roundId ← data.uuid "round_id"
  let originalBatchId ← data.uuid "original_batch_id"
  let originalEventId ← data.uuid "original_event_id"
  let supersedesEventId ← data.uuid "supersedes_event_id"
  let publisher ← data.account "publisher"
  let reasonCode ← data.code "reason_code"
  pure ⟨eventId, occurredAt, roundId, originalBatchId, originalEventId, supersedesEventId, publisher,
    reasonCode⟩

def readCollectibleIssued (v : Json) : Option CollectibleIssued := do
  let eventId ← v.uuid "event_id"
  let occurredAt ← v.timestamp "occurred_at"
  let data ← v.get "data"
  let collectibleId ← data.uuid "collectible_id"
  let definitionId ← data.text "definition_id"
  let kind ← (data.text "kind").bind kindOf
  let owner ← data.account "owner"
  let issuer ← data.account "issuer"
  let reason ← data.code "reason"
  let metadataUri ← data.text "metadata_uri"
  let metadataSha256 ← data.sha256 "metadata_sha256"
  pure ⟨eventId, occurredAt, collectibleId, definitionId, kind, owner, issuer, reason, metadataUri,
    metadataSha256, data.text "payment_tx_id"⟩

def readCollectibleRevoked (v : Json) : Option CollectibleRevoked := do
  let eventId ← v.uuid "event_id"
  let occurredAt ← v.timestamp "occurred_at"
  let data ← v.get "data"
  let collectibleId ← data.uuid "collectible_id"
  let issuedEventId ← data.uuid "issued_event_id"
  let reasonCode ← data.code "reason_code"
  pure ⟨eventId, occurredAt, collectibleId, issuedEventId, reasonCode⟩

/-- The event that a value is, by its `type`. -/
def readEvent (v : Json) : Option HiveChameleonEvent :=
  if v.text "type" = some "match_results_batch" then
    (readMatchResultsBatch v).map .matchResultsBatch
  else if v.text "type" = some "match_result_corrected" then
    (readMatchResultCorrected v).map .matchResultCorrected
  else if v.text "type" = some "match_result_invalidated" then
    (readMatchResultInvalidated v).map .matchResultInvalidated
  else if v.text "type" = some "collectible_issued" then
    (readCollectibleIssued v).map .collectibleIssued
  else if v.text "type" = some "collectible_revoked" then
    (readCollectibleRevoked v).map .collectibleRevoked
  else none

/-! ### Reading does not see the order of keys -/

section

variable (v : Json) (key : String)

theorem uuid_normal : v.normal.uuid key = v.uuid key := by
  rw [Json.uuid, Json.uuid, Json.text_normal]

theorem timestamp_normal : v.normal.timestamp key = v.timestamp key := by
  rw [Json.timestamp, Json.timestamp, Json.text_normal]

theorem account_normal : v.normal.account key = v.account key := by
  rw [Json.account, Json.account, Json.text_normal]

theorem code_normal : v.normal.code key = v.code key := by
  rw [Json.code, Json.code, Json.text_normal]

theorem sha256_normal : v.normal.sha256 key = v.sha256 key := by
  rw [Json.sha256, Json.sha256, Json.text_normal]

theorem nat_normal : v.normal.nat key = v.nat key := by
  rw [Json.nat, Json.nat, Json.get_normal, Option.bind_map]
  exact congrArg (fun f => (Option.bind _ f).map _) (funext Json.asNumber_normal)

/-- A nested value is read as before. -/
theorem get_bind_normal {α : Type} {read : Json → Option α} (hread : ∀ w, read w.normal = read w) :
    (v.normal.get key).bind read = (v.get key).bind read := by
  rw [Json.get_normal, Option.bind_map]
  exact congrArg (Option.bind _) (funext hread)

theorem readAll_normal {α : Type} {read : Json → Option α} (hread : ∀ w, read w.normal = read w)
    (items : List Json) : readAll read (items.map Json.normal) = readAll read items := by
  induction items with
  | nil => rfl
  | cons item items ih => rw [List.map_cons, readAll, readAll, hread, ih]

theorem readMap_normal : readMap v.normal = readMap v := by
  simp only [readMap, uuid_normal, sha256_normal]

theorem readServer_normal : readServer v.normal = readServer v := by
  simp only [readServer, Json.text_normal, code_normal]

theorem readMatchResult_normal : readMatchResult v.normal = readMatchResult v := by
  simp only [readMatchResult, uuid_normal, code_normal, sha256_normal,
    get_bind_normal v _ readMap_normal, get_bind_normal v _ readServer_normal]

theorem readMatchResultsBatch_normal : readMatchResultsBatch v.normal = readMatchResultsBatch v := by
  simp only [readMatchResultsBatch, uuid_normal, timestamp_normal, Option.bind_eq_bind,
    Json.get_normal, Option.bind_map, Function.comp_def, account_normal, nat_normal,
    Json.items_normal, readAll_normal readMatchResult_normal]

theorem readMatchResultCorrected_normal :
    readMatchResultCorrected v.normal = readMatchResultCorrected v := by
  have hresult (data : Json) := get_bind_normal data "replacement_result" readMatchResult_normal
  simp only [readMatchResultCorrected, uuid_normal, timestamp_normal, Option.bind_eq_bind,
    Json.get_normal v, Option.bind_map, Function.comp_def, account_normal, code_normal, hresult]

theorem readMatchResultInvalidated_normal :
    readMatchResultInvalidated v.normal = readMatchResultInvalidated v := by
  simp only [readMatchResultInvalidated, uuid_normal, timestamp_normal, Option.bind_eq_bind,
    Json.get_normal, Option.bind_map, Function.comp_def, account_normal, code_normal]

theorem readCollectibleIssued_normal : readCollectibleIssued v.normal = readCollectibleIssued v := by
  simp only [readCollectibleIssued, uuid_normal, timestamp_normal, Option.bind_eq_bind,
    Json.get_normal, Option.bind_map, Function.comp_def, account_normal, code_normal,
    sha256_normal, Json.text_normal]

theorem readCollectibleRevoked_normal :
    readCollectibleRevoked v.normal = readCollectibleRevoked v := by
  simp only [readCollectibleRevoked, uuid_normal, timestamp_normal, Option.bind_eq_bind,
    Json.get_normal, Option.bind_map, Function.comp_def, code_normal]

theorem readEvent_normal : readEvent v.normal = readEvent v := by
  simp only [readEvent, Json.text_normal, readMatchResultsBatch_normal,
    readMatchResultCorrected_normal, readMatchResultInvalidated_normal,
    readCollectibleIssued_normal, readCollectibleRevoked_normal]

end

/-! ### UUIDs -/

theorem hexValue_lt {c : Char} (h : isHexDigit c = true) : hexValue c < 16 := by
  simp only [isHexDigit, isDigit, Bool.or_eq_true, Bool.and_eq_true, decide_eq_true_eq] at h
  rw [hexValue]
  rcases h with ⟨hlow, hhigh⟩ | ⟨hlow, hhigh⟩
  · have h₁ : '0'.toNat ≤ c.toNat := hlow
    have h₂ : c.toNat ≤ '9'.toNat := hhigh
    rw [if_pos (by change c.toNat ≤ 57 at h₂; omega)]
    change c.toNat ≤ 57 at h₂
    omega
  · have h₁ : 'a'.toNat ≤ c.toNat := hlow
    have h₂ : c.toNat ≤ 'f'.toNat := hhigh
    change 97 ≤ c.toNat at h₁
    change c.toNat ≤ 102 at h₂
    rw [if_neg (by omega)]
    omega

theorem hexValue_injective {c d : Char} (hc : isHexDigit c = true) (hd : isHexDigit d = true)
    (h : hexValue c = hexValue d) : c = d := by
  simp only [isHexDigit, isDigit, Bool.or_eq_true, Bool.and_eq_true, decide_eq_true_eq] at hc hd
  have hrange {c : Char} (hc : '0' ≤ c ∧ c ≤ '9' ∨ 'a' ≤ c ∧ c ≤ 'f') :
      48 ≤ c.toNat ∧ c.toNat ≤ 57 ∨ 97 ≤ c.toNat ∧ c.toNat ≤ 102 := hc
  have hc := hrange hc
  have hd := hrange hd
  rw [hexValue, hexValue] at h
  have hnat : c.toNat = d.toNat := by
    split at h <;> split at h <;> omega
  rw [← Char.ofNat_toNat c, hnat, Char.ofNat_toNat]

theorem parseHex_concat (cs : List Char) (c : Char) :
    parseHex (cs ++ [c]) = 16 * parseHex cs + hexValue c := by
  rw [parseHex, List.foldl_append]
  rfl

/-- Hexadecimal numerals of one length are told apart by their value. -/
theorem parseHex_injective : ∀ (n : ℕ) {cs ds : List Char}, cs.length = n → ds.length = n →
    (∀ c ∈ cs, isHexDigit c = true) → (∀ d ∈ ds, isHexDigit d = true) →
    parseHex cs = parseHex ds → cs = ds
  | 0, cs, ds, hcs, hds, _, _, _ => by
    rw [List.length_eq_zero_iff.mp hcs, List.length_eq_zero_iff.mp hds]
  | n + 1, cs, ds, hcs, hds, hc, hd, h => by
    obtain ⟨cs, c, rfl⟩ := List.eq_nil_or_concat' cs |>.resolve_left (by
      rintro rfl
      cases hcs)
    obtain ⟨ds, d, rfl⟩ := List.eq_nil_or_concat' ds |>.resolve_left (by
      rintro rfl
      cases hds)
    rw [parseHex_concat, parseHex_concat] at h
    rw [List.length_append, List.length_singleton, Nat.add_right_cancel_iff] at hcs hds
    have hlast := hc c (List.mem_append_right _ (List.mem_singleton_self _))
    have hlast' := hd d (List.mem_append_right _ (List.mem_singleton_self _))
    have hlt := hexValue_lt hlast
    have hlt' := hexValue_lt hlast'
    rw [hexValue_injective hlast hlast' (by omega),
      parseHex_injective n hcs hds (fun c h => hc c (List.mem_append_left _ h))
        (fun d h => hd d (List.mem_append_left _ h)) (by omega)]

theorem matchesUuid_dash {template c : Char} (h : matchesUuid template c = true)
    (htemplate : template = 'x' ∨ template = 'y' ∨ template = '7' ∨ template = '-') :
    (c = '-' ↔ template = '-') ∧ (template ≠ '-' → isHexDigit c = true) := by
  rcases htemplate with rfl | rfl | rfl | rfl
  · have hhex : isHexDigit c = true := h
    exact ⟨⟨fun hdash => (by rw [hdash] at hhex; cases hhex), fun hx => by cases hx⟩, fun _ => hhex⟩
  · have hc : (c == '8' || c == '9' || c == 'a' || c == 'b') = true := h
    simp only [Bool.or_eq_true, beq_iff_eq] at hc
    rcases hc with ((rfl | rfl) | rfl) | rfl
    · exact ⟨by decide, fun _ => rfl⟩
    · exact ⟨by decide, fun _ => rfl⟩
    · exact ⟨by decide, fun _ => rfl⟩
    · exact ⟨by decide, fun _ => rfl⟩
  · have hc : (c == '7') = true := h
    rw [beq_iff_eq.mp hc]
    exact ⟨by decide, fun _ => rfl⟩
  · have hc : (c == '-') = true := h
    rw [beq_iff_eq.mp hc]
    exact ⟨by decide, fun hne => absurd rfl hne⟩

/-- The characters of the template of UUIDs. -/
def IsTemplate (ts : List Char) : Prop := ∀ t ∈ ts, t = 'x' ∨ t = 'y' ∨ t = '7' ∨ t = '-'

theorem isTemplate_uuidV7 : IsTemplate "xxxxxxxx-xxxx-7xxx-yxxx-xxxxxxxxxxxx".toList := by
  have hall : ("xxxxxxxx-xxxx-7xxx-yxxx-xxxxxxxxxxxx".toList.all fun t =>
      t == 'x' || t == 'y' || t == '7' || t == '-') = true := by decide +kernel
  intro t ht
  simpa [or_assoc] using List.all_eq_true.mp hall t ht

def MatchesTemplate (ts cs : List Char) : Prop :=
  cs.length = ts.length ∧ (ts.zip cs).all (fun p => matchesUuid p.1 p.2) = true

theorem matchesTemplate_cons {t c : Char} {ts cs : List Char} :
    MatchesTemplate (t :: ts) (c :: cs) ↔ matchesUuid t c = true ∧ MatchesTemplate ts cs := by
  rw [MatchesTemplate, MatchesTemplate, List.zip_cons_cons, List.all_cons, Bool.and_eq_true,
    List.length_cons, List.length_cons, Nat.add_right_cancel_iff]
  exact and_left_comm

/-- The digits of a text that matches the template. -/
theorem digits_of_matches : ∀ {ts cs : List Char}, IsTemplate ts → MatchesTemplate ts cs →
    (cs.filter fun c => c ≠ '-').length = (ts.filter fun t => t ≠ '-').length ∧
      ∀ c ∈ cs.filter fun c => c ≠ '-', isHexDigit c = true
  | [], cs, _, h => by
    rw [List.length_eq_zero_iff.mp h.1]
    exact ⟨rfl, fun c hc => (by cases hc)⟩
  | t :: ts, [], _, h => by cases h.1
  | t :: ts, c :: cs, htemplate, h => by
    obtain ⟨hfirst, hrest⟩ := matchesTemplate_cons.mp h
    obtain ⟨hdash, hhex⟩ := matchesUuid_dash hfirst (htemplate t (List.mem_cons_self ..))
    obtain ⟨hlength, hdigits⟩ :=
      digits_of_matches (fun t ht => htemplate t (List.mem_cons_of_mem _ ht)) hrest
    by_cases ht : t = '-'
    · rw [List.filter_cons_of_neg (by simp [hdash.mpr ht]), List.filter_cons_of_neg (by simp [ht])]
      exact ⟨hlength, hdigits⟩
    · have hc : c ≠ '-' := fun hc => ht (hdash.mp hc)
      rw [List.filter_cons_of_pos (by simp [hc]), List.filter_cons_of_pos (by simp [ht]),
        List.length_cons, List.length_cons, hlength]
      refine ⟨rfl, fun d hd => ?_⟩
      rcases List.mem_cons.mp hd with rfl | hd
      · exact hhex ht
      · exact hdigits d hd

/-- The dashes stand where the template has them. -/
theorem eq_of_digits : ∀ {ts cs ds : List Char}, IsTemplate ts → MatchesTemplate ts cs →
    MatchesTemplate ts ds → (cs.filter fun c => c ≠ '-') = (ds.filter fun d => d ≠ '-') → cs = ds
  | [], cs, ds, _, hcs, hds, _ => by
    rw [List.length_eq_zero_iff.mp hcs.1, List.length_eq_zero_iff.mp hds.1]
  | t :: ts, [], ds, _, hcs, _, _ => by cases hcs.1
  | t :: ts, c :: cs, [], _, _, hds, _ => by cases hds.1
  | t :: ts, c :: cs, d :: ds, htemplate, hcs, hds, h => by
    obtain ⟨hc, hcs⟩ := matchesTemplate_cons.mp hcs
    obtain ⟨hd, hds⟩ := matchesTemplate_cons.mp hds
    have ht := htemplate t (List.mem_cons_self ..)
    have htail : IsTemplate ts := fun t ht => htemplate t (List.mem_cons_of_mem _ ht)
    have hdash := (matchesUuid_dash hc ht).1
    have hdash' := (matchesUuid_dash hd ht).1
    by_cases htd : t = '-'
    · rw [List.filter_cons_of_neg (by simp [hdash.mpr htd]),
        List.filter_cons_of_neg (by simp [hdash'.mpr htd])] at h
      rw [hdash.mpr htd, hdash'.mpr htd, eq_of_digits htail hcs hds h]
    · have hc' : c ≠ '-' := fun hc => htd (hdash.mp hc)
      have hd' : d ≠ '-' := fun hd => htd (hdash'.mp hd)
      rw [List.filter_cons_of_pos (by simp [hc']), List.filter_cons_of_pos (by simp [hd'])] at h
      obtain ⟨hhead, hrest⟩ := List.cons.inj h
      rw [hhead, eq_of_digits htail hcs hds hrest]

/-- **A UUID has one text.** -/
theorem uuidOf_injective {s t : String} (hs : isUuidV7 s = true) (ht : isUuidV7 t = true)
    (h : uuidOf s = uuidOf t) : s = t := by
  have hmatch {s : String} (hs : isUuidV7 s = true) :
      MatchesTemplate "xxxxxxxx-xxxx-7xxx-yxxx-xxxxxxxxxxxx".toList s.toList := by
    rw [isUuidV7, Bool.and_eq_true, beq_iff_eq] at hs
    exact ⟨hs.1, hs.2⟩
  obtain ⟨hlength, hdigits⟩ := digits_of_matches isTemplate_uuidV7 (hmatch hs)
  obtain ⟨hlength', hdigits'⟩ := digits_of_matches isTemplate_uuidV7 (hmatch ht)
  have hvalue : parseHex (s.toList.filter fun c => c ≠ '-') =
      parseHex (t.toList.filter fun c => c ≠ '-') := Uuid.mk.inj h
  have hsame := parseHex_injective _ hlength hlength' hdigits hdigits' hvalue
  exact String.toList_injective (eq_of_digits isTemplate_uuidV7 (hmatch hs) (hmatch ht) hsame)

theorem uuidOf_surjective : Function.Surjective uuidOf := by
  have hdigit : ∀ d < 16, hexValue (Nat.digitChar d) = d ∧ '-' ≠ Nat.digitChar d := by decide
  have hhex : ∀ n, ∃ cs : List Char, '-' ∉ cs ∧ parseHex cs = n := by
    intro n
    induction n using Nat.strongRecOn with
    | ind n ih =>
      rcases Nat.eq_zero_or_pos n with rfl | hpos
      · exact ⟨[], List.not_mem_nil, rfl⟩
      · obtain ⟨cs, hcs, hvalue⟩ := ih (n / 16) (Nat.div_lt_self hpos (by decide))
        obtain ⟨hlast, hdash⟩ := hdigit (n % 16) (Nat.mod_lt _ (by decide))
        refine ⟨cs ++ [Nat.digitChar (n % 16)], ?_, ?_⟩
        · rw [List.mem_append, List.mem_singleton]
          rintro (h | h)
          · exact hcs h
          · exact hdash h
        · rw [parseHex_concat, hvalue, hlast, Nat.div_add_mod]
  intro id
  obtain ⟨cs, hcs, hvalue⟩ := hhex id.val
  refine ⟨String.ofList cs, ?_⟩
  rw [uuidOf, String.toList_ofList, List.filter_eq_self.mpr fun c hc => ?_, hvalue]
  exact decide_eq_true fun heq => hcs (heq ▸ hc)

/-! ### Accepted values are events -/

namespace EventSchema

open Schema

section

variable {shape : List (String × Field)} {hnodup : (shape.map Prod.fst).Nodup} {v d : Json}
  (h : (strictObject shape hnodup).parse v = some d) (key : String)

include h

theorem uuid_required (hfield : (key, required uuidV7Schema) ∈ shape) :
    ∃ s, d.text key = some s ∧ isUuidV7 s = true ∧ d.uuid key = some (uuidOf s) := by
  obtain ⟨s, hs, hp⟩ := text_required h key hfield
  refine ⟨s, hs, hp, ?_⟩
  rw [Json.uuid, hs]
  rfl

theorem account_required (hfield : (key, required EventSchema.hiveAccountSchema) ∈ shape) :
    ∃ account, d.account key = some account := by
  obtain ⟨s, hs, hp⟩ := text_required h key hfield
  refine ⟨⟨s, hp⟩, ?_⟩
  rw [Json.account, hs, Option.bind_some, accountOf, dif_pos hp]

theorem code_required (hfield : (key, required EventSchema.controlledCodeSchema) ∈ shape) :
    ∃ code, d.code key = some code := by
  obtain ⟨s, hs, hp⟩ := text_required h key hfield
  refine ⟨⟨s, hp⟩, ?_⟩
  rw [Json.code, hs, Option.bind_some, codeOf, dif_pos hp]

theorem sha256_required (hfield : (key, required EventSchema.sha256Schema) ∈ shape) :
    ∃ sha, d.sha256 key = some sha := by
  obtain ⟨s, hs, hp⟩ := text_required h key hfield
  refine ⟨⟨s, hp⟩, ?_⟩
  rw [Json.sha256, hs, Option.bind_some, sha256Of, dif_pos hp]

theorem timestamp_required {J : JsRuntime} (hfield : (key, required (isoTimestampSchema J)) ∈ shape) :
    ∃ time, d.timestamp key = some time := by
  obtain ⟨s, hs, -⟩ := text_required h key hfield
  refine ⟨⟨s⟩, ?_⟩
  rw [Json.timestamp, hs]
  rfl

end

theorem length_le_utf16Length (text : String) : text.length ≤ utf16Length text := by
  rw [utf16Length, ← String.length_toList]
  induction text.toList with
  | nil => exact Nat.le_refl 0
  | cons c cs ih =>
    rw [List.map_cons, List.sum_cons, List.length_cons]
    have hc : 1 ≤ (if c.toNat < 65536 then 1 else 2) := by
      by_cases hlow : c.toNat < 65536
      · rw [if_pos hlow]
      · rw [if_neg hlow]
        omega
    omega

theorem length_pos_of_utf16Length {text : String} (h : 1 ≤ utf16Length text) : 1 ≤ text.length := by
  by_contra hnot
  have hzero : text.toList.length = 0 := by
    rw [String.length_toList]
    omega
  rw [utf16Length, List.length_eq_zero_iff.mp hzero] at h
  exact absurd h (by decide)

section

variable {J : JsRuntime} {v d : Json}

theorem readMap_total (h : resultMapSchema.parse v = some d) : ∃ m, readMap d = some m := by
  obtain ⟨mapId, -, -, hmap⟩ := uuid_required h "map_id" (by simp)
  obtain ⟨versionId, -, -, hversion⟩ := uuid_required h "version_id" (by simp)
  obtain ⟨sha, hsha⟩ := sha256_required h "content_sha256" (by simp)
  refine ⟨⟨uuidOf mapId, uuidOf versionId, sha⟩, ?_⟩
  rw [readMap, hmap, hversion, hsha]
  rfl

theorem readServer_total (h : resultServerSchema.parse v = some d) :
    ∃ server, readServer d = some server := by
  obtain ⟨build, hbuild, hlength⟩ := text_required h "build" (List.mem_cons_self ..)
  obtain ⟨protocol, hprotocol⟩ := code_required h "protocol" (by simp)
  rw [boundedLength, Bool.and_eq_true, decide_eq_true_eq, decide_eq_true_eq] at hlength
  have hbounds : 1 ≤ build.length ∧ build.length ≤ 64 :=
    ⟨length_pos_of_utf16Length hlength.1, (length_le_utf16Length build).trans hlength.2⟩
  refine ⟨⟨build, protocol, hbounds⟩, ?_⟩
  rw [readServer, hbuild, hprotocol]
  exact dif_pos hbounds

/-- The round of a result is the one that its text names. -/
def NamesRound (d : Json) (result : MatchResult) : Prop :=
  isUuidV7 ((d.text "round_id").getD "") = true ∧
    result.roundId = uuidOf ((d.text "round_id").getD "")

theorem readMatchResult_total (h : (matchResultSchema J).parse v = some d) :
    ∃ result, readMatchResult d = some result ∧ NamesRound d result := by
  have h := (refine_eq_some.mp h).1
  obtain ⟨roundId, htext, huuid, hround⟩ := uuid_required h "round_id" (by simp)
  obtain ⟨resultSchema, hresult⟩ := code_required h "result_schema" (by simp)
  obtain ⟨scoringRules, hscoring⟩ := code_required h "scoring_rules" (by simp)
  obtain ⟨sha, hsha⟩ := sha256_required h "result_sha256" (by simp)
  obtain ⟨mapValue, mapData, hmapParse, hmap⟩ :=
    get_required h "map" resultMapSchema (by simp)
  obtain ⟨serverValue, serverData, hserverParse, hserver⟩ :=
    get_required h "server" resultServerSchema (by simp)
  obtain ⟨map, hreadMap⟩ := readMap_total hmapParse
  obtain ⟨server, hreadServer⟩ := readServer_total hserverParse
  refine ⟨⟨uuidOf roundId, resultSchema, scoringRules, map, server, sha⟩, ?_, ?_⟩
  · rw [readMatchResult, hround, hresult, hscoring, hmap, hserver, hsha, Option.bind_some,
      Option.bind_some, hreadMap, hreadServer]
    rfl
  · rw [NamesRound, htext]
    exact ⟨huuid, rfl⟩

/-- The results of a list, each of the round that its text names. -/
theorem readAll_total : ∀ {items : List Json},
    (∀ d ∈ items, ∃ v, (matchResultSchema J).parse v = some d) →
      ∃ results, readAll readMatchResult items = some results ∧
        List.Forall₂ NamesRound items results
  | [], _ => ⟨[], rfl, .nil⟩
  | d :: items, h => by
    obtain ⟨v, hv⟩ := h d (List.mem_cons_self ..)
    obtain ⟨result, hresult, hnames⟩ := readMatchResult_total hv
    obtain ⟨results, hresults, hall⟩ := readAll_total fun d hd => h d (List.mem_cons_of_mem _ hd)
    refine ⟨result :: results, ?_, .cons hnames hall⟩
    rw [readAll, hresult, hresults]
    rfl

theorem map_roundId {items : List Json} {results : List MatchResult}
    (h : List.Forall₂ NamesRound items results) :
    results.map (·.roundId) = (items.map fun d => (d.text "round_id").getD "").map uuidOf := by
  induction h with
  | nil => rfl
  | cons hnames _ ih => rw [List.map_cons, List.map_cons, List.map_cons, ih, hnames.2]

theorem uuid_of_names {items : List Json} {results : List MatchResult}
    (h : List.Forall₂ NamesRound items results) :
    ∀ s ∈ items.map fun d => (d.text "round_id").getD "", isUuidV7 s = true := by
  induction h with
  | nil =>
    intro s hs
    cases hs
  | cons hnames _ ih =>
    intro s hs
    rcases List.mem_cons.mp hs with rfl | hs
    · exact hnames.1
    · exact ih s hs

theorem nat_of_number {v : Json} {key : String} {n : ℕ}
    (h : (v.get key).bind Json.asNumber = some (toString n)) : v.nat key = some n := by
  rw [Json.nat, h, Option.map_some, Nat.toString_eq_ofList_toDigits, String.toList_ofList,
    Nat.ofDigitChars_toDigits (by decide) (by decide)]

theorem readMatchResultsBatch_total (h : (matchBatchSchema J).parse v = some d) :
    ∃ e, readMatchResultsBatch d = some e := by
  obtain ⟨h, hrules⟩ := refine_eq_some.mp h
  obtain ⟨eventId, -, -, heventId⟩ := uuid_required h "event_id" (by simp)
  obtain ⟨occurredAt, hoccurredAt⟩ := timestamp_required (J := J) h "occurred_at" (by simp)
  obtain ⟨value, data, hparse, hdata⟩ := get_required h "data" (matchBatchData J) (by simp)
  obtain ⟨batchId, -, -, hbatchId⟩ := uuid_required hparse "batch_id" (by simp)
  obtain ⟨periodStart, hstart⟩ := timestamp_required (J := J) hparse "period_start" (by simp)
  obtain ⟨periodEnd, hend⟩ := timestamp_required (J := J) hparse "period_end" (by simp)
  obtain ⟨publisher, hpublisher⟩ := account_required hparse "publisher" (by simp)
  obtain ⟨listValue, list, hlistParse, hlist⟩ :=
    get_required hparse "results" (array 1 20 (matchResultSchema J)) (by simp)
  obtain ⟨items, rfl, hmin, hmax, hitems⟩ := parse_array hlistParse
  obtain ⟨results, hresults, hnames⟩ := readAll_total hitems
  have hread : data.items "results" = items := by
    rw [Json.items, hlist]
    rfl
  have hevent : EventSchema.data d = data := by
    rw [EventSchema.data, hdata]
    rfl
  have hlength : items.length = results.length := hnames.length_eq
  obtain ⟨hcount, -, -, -, hrounds⟩ := of_decide_eq_true hrules
  rw [hevent, hread, List.length_map, hlength] at hcount
  rw [hevent, hread, List.map_map] at hrounds
  have hnodup : (results.map (·.roundId)).Nodup := by
    rw [map_roundId hnames]
    exact hrounds.map_on fun s hs t ht =>
      uuidOf_injective (uuid_of_names hnames s hs) (uuid_of_names hnames t ht)
  have hok : results.length = results.length ∧ (1 ≤ results.length ∧ results.length ≤ 20) ∧
      (results.map (·.roundId)).Nodup := ⟨rfl, ⟨hlength ▸ hmin, hlength ▸ hmax⟩, hnodup⟩
  refine ⟨⟨uuidOf eventId, occurredAt, uuidOf batchId, periodStart, periodEnd, publisher,
    results.length, results, hok.1, hok.2.1, hok.2.2⟩, ?_⟩
  rw [readMatchResultsBatch, heventId, hoccurredAt, hdata]
  simp only [Option.bind_eq_bind, Option.bind_some, hbatchId, hstart, hend, hpublisher,
    nat_of_number hcount, hread, hresults]
  exact dif_pos ⟨trivial, hok.2⟩

theorem readMatchResultCorrected_total (h : (matchCorrectionSchema J).parse v = some d) :
    ∃ e, readMatchResultCorrected d = some e := by
  obtain ⟨h, hrules⟩ := refine_eq_some.mp h
  obtain ⟨eventId, -, -, heventId⟩ := uuid_required h "event_id" (by simp)
  obtain ⟨occurredAt, hoccurredAt⟩ := timestamp_required (J := J) h "occurred_at" (by simp)
  obtain ⟨value, data, hparse, hdata⟩ := get_required h "data" (matchCorrectionData J) (by simp)
  obtain ⟨roundId, htext, -, hroundId⟩ :=
    uuid_required hparse "round_id" (by simp [matchChangeFields])
  obtain ⟨batchId, -, -, hbatchId⟩ :=
    uuid_required hparse "original_batch_id" (by simp [matchChangeFields])
  obtain ⟨originalId, -, -, horiginalId⟩ :=
    uuid_required hparse "original_event_id" (by simp [matchChangeFields])
  obtain ⟨supersedesId, -, -, hsupersedesId⟩ :=
    uuid_required hparse "supersedes_event_id" (by simp [matchChangeFields])
  obtain ⟨publisher, hpublisher⟩ := account_required hparse "publisher" (by simp [matchChangeFields])
  obtain ⟨reasonCode, hreasonCode⟩ := code_required hparse "reason_code" (by simp [matchChangeFields])
  obtain ⟨resultValue, resultData, hresultParse, hresult⟩ :=
    get_required hparse "replacement_result" (matchResultSchema J) (by simp)
  obtain ⟨result, hreadResult, -, hround⟩ := readMatchResult_total hresultParse
  have hrules : MatchCorrectionRules d := of_decide_eq_true hrules
  have hevent : EventSchema.data d = data := by
    rw [EventSchema.data, hdata]
    rfl
  have hsame : result.roundId = uuidOf roundId := by
    rw [MatchCorrectionRules, hevent, hresult, htext] at hrules
    rw [hround, show resultData.text "round_id" = some roundId from hrules]
    rfl
  refine ⟨⟨uuidOf eventId, occurredAt, uuidOf roundId, uuidOf batchId, uuidOf originalId,
    uuidOf supersedesId, publisher, reasonCode, result, hsame⟩, ?_⟩
  rw [readMatchResultCorrected, heventId, hoccurredAt, hdata]
  simp only [Option.bind_eq_bind, Option.bind_some, hroundId, hbatchId, horiginalId, hsupersedesId,
    hpublisher, hreasonCode, hresult, hreadResult]
  exact dif_pos hsame

theorem readMatchResultInvalidated_total (h : (matchInvalidationSchema J).parse v = some d) :
    ∃ e, readMatchResultInvalidated d = some e := by
  have h : (matchEvent J _ _).parse v = some d := h
  obtain ⟨eventId, -, -, heventId⟩ := uuid_required h "event_id" (by simp)
  obtain ⟨occurredAt, hoccurredAt⟩ := timestamp_required (J := J) h "occurred_at" (by simp)
  obtain ⟨value, data, hparse, hdata⟩ :=
    get_required h "data" (strictObject matchChangeFields (by simp [matchChangeFields])) (by simp)
  obtain ⟨roundId, -, -, hroundId⟩ := uuid_required hparse "round_id" (by simp [matchChangeFields])
  obtain ⟨batchId, -, -, hbatchId⟩ :=
    uuid_required hparse "original_batch_id" (by simp [matchChangeFields])
  obtain ⟨originalId, -, -, horiginalId⟩ :=
    uuid_required hparse "original_event_id" (by simp [matchChangeFields])
  obtain ⟨supersedesId, -, -, hsupersedesId⟩ :=
    uuid_required hparse "supersedes_event_id" (by simp [matchChangeFields])
  obtain ⟨publisher, hpublisher⟩ := account_required hparse "publisher" (by simp [matchChangeFields])
  obtain ⟨reasonCode, hreasonCode⟩ := code_required hparse "reason_code" (by simp [matchChangeFields])
  refine ⟨⟨uuidOf eventId, occurredAt, uuidOf roundId, uuidOf batchId, uuidOf originalId,
    uuidOf supersedesId, publisher, reasonCode⟩, ?_⟩
  rw [readMatchResultInvalidated, heventId, hoccurredAt, hdata]
  simp only [Option.bind_eq_bind, Option.bind_some, hroundId, hbatchId, horiginalId, hsupersedesId,
    hpublisher, hreasonCode]
  rfl

theorem kindOf_total {text : String} (h : ["badge", "weapon_skin", "character_material",
    "lobby_emote", "profile_frame", "victory_effect"].contains text = true) :
    ∃ kind, kindOf text = some kind := by
  simp only [List.contains_eq_mem, List.mem_cons, List.not_mem_nil, or_false,
    decide_eq_true_eq] at h
  rcases h with rfl | rfl | rfl | rfl | rfl | rfl
  · exact ⟨.badge, rfl⟩
  · exact ⟨.weaponSkin, rfl⟩
  · exact ⟨.characterMaterial, rfl⟩
  · exact ⟨.lobbyEmote, rfl⟩
  · exact ⟨.profileFrame, rfl⟩
  · exact ⟨.victoryEffect, rfl⟩

theorem readCollectibleIssued_total (h : (collectibleIssuedSchema J).parse v = some d) :
    ∃ e, readCollectibleIssued d = some e := by
  have h : (collectibleEvent J _ _).parse v = some d := h
  obtain ⟨eventId, -, -, heventId⟩ := uuid_required h "event_id" (by simp)
  obtain ⟨occurredAt, hoccurredAt⟩ := timestamp_required (J := J) h "occurred_at" (by simp)
  obtain ⟨value, data, hparse, hdata⟩ := get_required h "data" (collectibleIssuedData J) (by simp)
  obtain ⟨collectibleId, -, -, hcollectibleId⟩ := uuid_required hparse "collectible_id" (by simp)
  obtain ⟨definitionId, hdefinitionId, -⟩ :=
    text_required (p := isDefinitionId) hparse "definition_id" (by simp)
  obtain ⟨kindText, hkindText, hkind⟩ := text_required hparse "kind"
    (List.mem_cons_of_mem _ (List.mem_cons_of_mem _ (List.mem_cons_self ..)))
  obtain ⟨owner, howner⟩ := account_required hparse "owner" (by simp)
  obtain ⟨issuer, hissuer⟩ := account_required hparse "issuer" (by simp)
  obtain ⟨reason, hreason⟩ := code_required hparse "reason" (by simp)
  obtain ⟨uriValue, uri, huriParse, huri⟩ :=
    get_required hparse "metadata_uri" (httpsUrlSchema J) (by simp)
  obtain ⟨-, metadataUri, -, -, rfl⟩ := parse_string huriParse
  obtain ⟨sha, hsha⟩ := sha256_required hparse "metadata_sha256" (by simp)
  obtain ⟨kind, hkindOf⟩ := kindOf_total hkind
  have huriText : data.text "metadata_uri" = some metadataUri := by
    rw [Json.text, huri]
    rfl
  refine ⟨⟨uuidOf eventId, occurredAt, uuidOf collectibleId, definitionId, kind, owner, issuer,
    reason, metadataUri, sha, data.text "payment_tx_id"⟩, ?_⟩
  rw [readCollectibleIssued, heventId, hoccurredAt, hdata]
  simp only [Option.bind_eq_bind, Option.bind_some, hcollectibleId, hdefinitionId, hkindText,
    hkindOf, howner, hissuer, hreason, huriText, hsha]
  rfl

theorem readCollectibleRevoked_total (h : (collectibleRevokedSchema J).parse v = some d) :
    ∃ e, readCollectibleRevoked d = some e := by
  have h : (collectibleEvent J _ _).parse v = some d := h
  obtain ⟨eventId, -, -, heventId⟩ := uuid_required h "event_id" (by simp)
  obtain ⟨occurredAt, hoccurredAt⟩ := timestamp_required (J := J) h "occurred_at" (by simp)
  obtain ⟨value, data, hparse, hdata⟩ := get_required h "data" collectibleRevokedData (by simp)
  obtain ⟨collectibleId, -, -, hcollectibleId⟩ := uuid_required hparse "collectible_id" (by simp)
  obtain ⟨issuedId, -, -, hissuedId⟩ := uuid_required hparse "issued_event_id" (by simp)
  obtain ⟨reasonCode, hreasonCode⟩ := code_required hparse "reason_code" (by simp)
  refine ⟨⟨uuidOf eventId, occurredAt, uuidOf collectibleId, uuidOf issuedId, reasonCode⟩, ?_⟩
  rw [readCollectibleRevoked, heventId, hoccurredAt, hdata]
  simp only [Option.bind_eq_bind, Option.bind_some, hcollectibleId, hissuedId, hreasonCode]
  rfl

end

/-- **What the schema hands on is an event.** -/
theorem readEvent_total {J : JsRuntime} {v d : Json}
    (h : (hiveChameleonEventSchema J).parse v = some d) : ∃ e, readEvent d = some e := by
  obtain ⟨⟨tag, schema⟩, hoption, hparse⟩ := parse_discriminatedUnion h
  have htag : d.text "type" = some tag := by
    rw [Json.text, tagged_eventOptions J (tag, schema) hoption v d hparse]
    rfl
  rw [readEvent, htag]
  simp only [eventOptions, List.mem_cons, List.not_mem_nil, or_false, Prod.mk.injEq] at hoption
  rcases hoption with ⟨rfl, rfl⟩ | ⟨rfl, rfl⟩ | ⟨rfl, rfl⟩ | ⟨rfl, rfl⟩ | ⟨rfl, rfl⟩
  · obtain ⟨e, he⟩ := readMatchResultsBatch_total hparse
    exact ⟨.matchResultsBatch e, by rw [he]; rfl⟩
  · obtain ⟨e, he⟩ := readMatchResultCorrected_total hparse
    exact ⟨.matchResultCorrected e, by rw [he]; rfl⟩
  · obtain ⟨e, he⟩ := readMatchResultInvalidated_total hparse
    exact ⟨.matchResultInvalidated e, by rw [he]; rfl⟩
  · obtain ⟨e, he⟩ := readCollectibleIssued_total hparse
    exact ⟨.collectibleIssued e, by rw [he]; rfl⟩
  · obtain ⟨e, he⟩ := readCollectibleRevoked_total hparse
    exact ⟨.collectibleRevoked e, by rw [he]; rfl⟩

theorem period_of_read {v : Json} {batch : MatchResultsBatch}
    (h : readMatchResultsBatch v = some batch) :
    (data v).text "period_start" = some batch.periodStart.text ∧
      (data v).text "period_end" = some batch.periodEnd.text := by
  simp only [readMatchResultsBatch, Option.bind_eq_bind, Option.bind_eq_some_iff] at h
  obtain ⟨_, -, _, -, value, hvalue, _, -, start, hstart, stop, hstop, _, -, _, -, _, -, h⟩ := h
  obtain ⟨startText, hstartText, rfl⟩ := Option.map_eq_some_iff.mp hstart
  obtain ⟨stopText, hstopText, rfl⟩ := Option.map_eq_some_iff.mp hstop
  split at h
  · obtain rfl := Option.some.inj h
    rw [data, hvalue]
    exact ⟨hstartText, hstopText⟩
  · cases h

theorem matchBatchRules_of_parse {J : JsRuntime} {v d : Json}
    (h : (matchBatchSchema J).parse v = some d) : MatchBatchRules J d := by
  obtain ⟨-, hrules⟩ := refine_eq_some.mp h
  exact of_decide_eq_true hrules

/-- The period of a batch that the schema hands on ends after it starts. -/
theorem period_lt_of_read {J : JsRuntime} {v d : Json} {batch : MatchResultsBatch}
    (h : (hiveChameleonEventSchema J).parse v = some d)
    (hread : readEvent d = some (.matchResultsBatch batch)) :
    J.dateParse batch.periodStart.text < J.dateParse batch.periodEnd.text := by
  obtain ⟨⟨tag, schema⟩, hoption, hparse⟩ := parse_discriminatedUnion h
  have htag : d.text "type" = some tag := by
    rw [Json.text, tagged_eventOptions J (tag, schema) hoption v d hparse]
    rfl
  rw [readEvent, htag] at hread
  simp only [eventOptions, List.mem_cons, List.not_mem_nil, or_false, Prod.mk.injEq] at hoption
  rcases hoption with ⟨rfl, rfl⟩ | ⟨rfl, rfl⟩ | ⟨rfl, rfl⟩ | ⟨rfl, rfl⟩ | ⟨rfl, rfl⟩
  · obtain ⟨e, he, heq⟩ := Option.map_eq_some_iff.mp hread
    obtain rfl := HiveChameleonEvent.matchResultsBatch.inj heq
    obtain ⟨hstart, hend⟩ := period_of_read he
    obtain ⟨-, hlt, -⟩ := matchBatchRules_of_parse hparse
    rw [date, date, hstart, hend] at hlt
    exact hlt
  all_goals
    obtain ⟨e, -, heq⟩ := Option.map_eq_some_iff.mp hread
    cases heq

end EventSchema

end HiveChameleon.Gateway
