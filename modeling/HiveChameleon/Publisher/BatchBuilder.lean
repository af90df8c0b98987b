import HiveChameleon.Gateway.JsonSize
import HiveChameleon.Projector.SignerAgreement
import HiveChameleon.Publisher.Planning
import HiveChameleon.Publisher.PublicMatch
import HiveChameleon.Publisher.Worker

/-!
# Publisher.BatchBuilder — `batch-builder.ts` on JSON values

The planner with the event, the payload and the bytes that it really builds; the store's view of it is
`Publisher.Planning`.  Then the size of the canonical text of a batch, which grows with every result, and
the planner and the worker of the store over this codec.
-/

namespace HiveChameleon.Publisher.PublicMatch

open Gateway Gateway.EventSchema Gateway.Schema Lib

/-! ### `planMatchBatch` -/

structure FrozenMatchBatch where
  outboxId : String
  eventId : String
  batchId : String
  event : Json
  canonicalPayload : String
  payloadSha256 : String
  payloadByteCount : ℕ
  publicationPeriodStart : String
  publicationPeriodEnd : String
  candidates : List MatchPublicationCandidate

/-- What `nextUuidV7` returns in turn. -/
structure DrawnIds where
  eventId : String
  batchId : String
  outboxId : String

def validatePolicy (policy : MatchBatchPolicy) : Except MatchPublisherError Unit :=
  require (1000 ≤ policy.maximumAgeMs ∧ policy.maximumAgeMs ≤ 9007199254740991 ∧
      1 ≤ policy.maximumResults ∧ policy.maximumResults ≤ 20 ∧
      512 ≤ policy.maximumPayloadBytes ∧ policy.maximumPayloadBytes ≤ 6 * 1024)
    ⟨"configuration_invalid", "Match batch policy is invalid"⟩

def checkedUuid (value label : String) : Except MatchPublisherError Unit :=
  require (isUuidV7 value = true) ⟨"configuration_invalid", label ++ " ID provider is invalid"⟩

section

variable (J : JsRuntime) (sha256Hex : String → String)

/-- What `compareCandidates` returns for the two is not positive. -/
def compareCandidates (left right : MatchPublicationCandidate) : Prop :=
  J.dateParse left.completedAt < J.dateParse right.completedAt ∨
    J.dateParse left.completedAt = J.dateParse right.completedAt ∧ left.roundId ≤ right.roundId

instance (left right : MatchPublicationCandidate) : Decidable (compareCandidates J left right) :=
  inferInstanceAs (Decidable (_ ∨ _))

/-- The loop of `assertCandidates`, with the rounds and requests seen so far.  The time of a text is
finite when the text is a timestamp. -/
def assertCandidates (now : ℤ) : List String → List String → List MatchPublicationCandidate →
    Except MatchPublisherError Unit
  | _, _, [] => .ok ()
  | roundIds, requestIds, candidate :: candidates => do
    require (J.datetime candidate.completedAt = true ∧ J.dateParse candidate.completedAt ≤ now ∧
        candidate.publicResult.text "completed_at" = some candidate.completedAt ∧
        candidate.publicResult.text "round_id" = some candidate.roundId)
      ⟨"invalid_candidate", "Candidate identity or completion timestamp is inconsistent"⟩
    require (candidate.roundId ∉ roundIds ∧ candidate.publicationRequestId ∉ requestIds)
      ⟨"invalid_candidate", "Batch candidates must be unique"⟩
    assertCandidates now (candidate.roundId :: roundIds) (candidate.publicationRequestId :: requestIds)
      candidates

/-- The gateway's codec, on a JSON value. -/
def serializeHiveChameleonEvent (event : Json) : Except HiveGatewayError String :=
  (hiveCodec J).serializeHiveChameleonEvent event

/-- The variables of the selection loop. -/
structure Selection where
  selected : List MatchPublicationCandidate
  payload : String
  event : Option Json
  payloadLimitReached : Bool

/-- The loop over the first candidates. -/
def selectCandidates (maximumPayloadBytes : ℕ) (event : List MatchPublicationCandidate → Json) :
    Selection → List MatchPublicationCandidate → Except MatchPublisherError Selection
  | selection, [] => .ok selection
  | selection, candidate :: candidates =>
    let tentative := selection.selected ++ [candidate]
    match serializeHiveChameleonEvent J (event tentative) with
    | .error e =>
      if e.code ≠ .payloadTooLarge then
        .error ⟨"invalid_candidate", "Candidate failed event validation"⟩
      else if selection.selected.length = 0 then
        .error ⟨"payload_too_large",
          "One complete public match result exceeds the Hive payload limit"⟩
      else .ok { selection with payloadLimitReached := true }
    | .ok payload =>
      if maximumPayloadBytes < payload.utf8ByteSize then
        if selection.selected.length = 0 then
          .error ⟨"payload_too_large",
            "One complete public match result exceeds the configured payload limit"⟩
        else .ok { selection with payloadLimitReached := true }
      else
        selectCandidates maximumPayloadBytes event ⟨tentative, payload, some (event tentative), false⟩
          candidates

/-- The end of the publication period: after the last completion that may be selected. -/
def periodEnd (now : ℤ) (policy : MatchBatchPolicy) (oldest : MatchPublicationCandidate)
    (ordered : List MatchPublicationCandidate) : ℤ :=
  let latest := J.dateParse ((ordered.take policy.maximumResults).getLastD oldest).completedAt
  if latest < now then now else latest + 1

/-- The event of some of the candidates, in the period of all of them. -/
def plannedEvent (now : ℤ) (policy : MatchBatchPolicy) (ids : DrawnIds)
    (oldest : MatchPublicationCandidate) (ordered selected : List MatchPublicationCandidate) : Json :=
  createEvent selected policy.publisherAccount ids.eventId ids.batchId (toISOString now)
    oldest.completedAt (toISOString (periodEnd J now policy oldest ordered))

/-- The statements after the loop. -/
def finishBatch (now : ℤ) (policy : MatchBatchPolicy) (ids : DrawnIds)
    (oldest : MatchPublicationCandidate) (ordered : List MatchPublicationCandidate)
    (selection : Selection) : Except MatchPublisherError (Option FrozenMatchBatch) :=
  match selection.event with
  | none => .error ⟨"invalid_candidate", "No publishable candidate was selected"⟩
  | some event =>
    if selection.payload = "" then
      .error ⟨"invalid_candidate", "No publishable candidate was selected"⟩
    else if policy.maximumAgeMs ≤ now - J.dateParse oldest.completedAt ∨
        selection.selected.length = policy.maximumResults ∨
        selection.payloadLimitReached = true then
      .ok (some
        { outboxId := ids.outboxId
          eventId := ids.eventId
          batchId := ids.batchId
          event := event
          canonicalPayload := selection.payload
          payloadSha256 := sha256Hex selection.payload
          payloadByteCount := selection.payload.utf8ByteSize
          publicationPeriodStart := oldest.completedAt
          publicationPeriodEnd := toISOString (periodEnd J now policy oldest ordered)
          candidates := selection.selected })
    else .ok none

def planMatchBatch (candidates : List MatchPublicationCandidate) (now : ℤ)
    (policy : MatchBatchPolicy) (ids : DrawnIds) :
    Except MatchPublisherError (Option FrozenMatchBatch) := do
  validatePolicy policy
  match candidates.insertionSort (compareCandidates J) with
  | [] => pure none
  | oldest :: later => do
    let ordered := oldest :: later
    assertCandidates J now [] [] ordered
    checkedUuid ids.eventId "event"
    checkedUuid ids.batchId "batch"
    checkedUuid ids.outboxId "outbox"
    let selection ← selectCandidates J policy.maximumPayloadBytes
      (plannedEvent J now policy ids oldest ordered) ⟨[], "", none, false⟩
      (ordered.take policy.maximumResults)
    finishBatch J sha256Hex now policy ids oldest ordered selection

end

/-! ### The bytes of a batch -/

section Sizes

variable {publisher eventId batchId occurredAt periodStart periodStop : String}
  {candidates : List MatchPublicationCandidate}

/-- The bytes of the canonical text of the event. -/
def payloadBytes (event : Json) : ℕ := (canonicalJson event).utf8ByteSize

theorem normal_createEvent :
    (createEvent candidates publisher eventId batchId occurredAt periodStart periodStop).normal =
      .object [
        ("data", .object [
          ("batch_id", .string batchId),
          ("period_end", .string periodStop),
          ("period_start", .string periodStart),
          ("publisher", .string publisher),
          ("result_count", .number (toString candidates.length)),
          ("results", .array (normalItems (candidates.map (·.publicResult))))]),
        ("event_id", .string eventId),
        ("event_version", .number "1"),
        ("occurred_at", .string occurredAt),
        ("type", .string "match_results_batch"),
        ("v", .number "1")] := rfl

theorem byteLength_renderItems_concat (item : Json) (items : List Json) :
    byteLength (renderItems items) ≤ byteLength (renderItems (items ++ [item])) := by
  have hclose : byteLength [']'] = 1 := rfl
  have hcomma : ','.utf8Size = 1 := rfl
  induction items with
  | nil =>
    have hitem : byteLength (renderItems [item]) = byteLength item.render + byteLength [']'] := by
      rw [renderItems, byteLength_append]
    rw [List.nil_append, hitem, renderItems]
    omega
  | cons first items ih =>
    cases items with
    | nil =>
      have hleft : byteLength (renderItems [first]) = byteLength first.render + 1 := by
        rw [renderItems, byteLength_append, hclose]
      have hright : byteLength (renderItems ([first] ++ [item])) =
          byteLength first.render + (1 + byteLength (renderItems [item])) := by
        rw [List.singleton_append, renderItems_cons, byteLength_append, byteLength_cons, hcomma]
      omega
    | cons next items =>
      rw [List.cons_append, List.cons_append, renderItems_cons, renderItems_cons, byteLength_append,
        byteLength_append, byteLength_cons, byteLength_cons]
      rw [List.cons_append] at ih
      omega

theorem exists_frame (publisher eventId batchId occurredAt periodStart periodStop : String) :
    ∃ before middle after : List Char, ∀ candidates,
    (createEvent candidates publisher eventId batchId occurredAt periodStart periodStop).normal.render =
      before ++ ((toString candidates.length).toList ++ (middle ++
        (('[' :: renderItems (normalItems (candidates.map (·.publicResult)))) ++ after))) := by
  refine ⟨'\x7b' :: (jsonString "data" ++ ':' :: ('\x7b' :: (jsonString "batch_id" ++ ':' ::
      (jsonString batchId ++ ',' :: (jsonString "period_end" ++ ':' :: (jsonString periodStop ++ ',' ::
      (jsonString "period_start" ++ ':' :: (jsonString periodStart ++ ',' :: (jsonString "publisher" ++
      ':' :: (jsonString publisher ++ ',' :: (jsonString "result_count" ++ [':']))))))))))),
    ',' :: (jsonString "results" ++ [':']), '\x7d' :: ',' :: renderFields [
      ("event_id", .string eventId), ("event_version", .number "1"), ("occurred_at", .string occurredAt),
      ("type", .string "match_results_batch"), ("v", .number "1")], fun candidates => ?_⟩
  rw [normal_createEvent]
  simp only [Json.render, renderFields, List.cons_append, List.append_assoc, List.nil_append]

/-- **A batch grows with every result**, the digits of its count included. -/
theorem payloadBytes_concat {candidate : MatchPublicationCandidate} (hlength : candidates.length < 20) :
    payloadBytes (createEvent candidates publisher eventId batchId occurredAt periodStart periodStop) ≤
      payloadBytes (createEvent (candidates ++ [candidate]) publisher eventId batchId occurredAt
        periodStart periodStop) := by
  have hcount : ∀ n < 20, byteLength (toString n).toList ≤ byteLength (toString (n + 1)).toList := by
    decide +kernel
  have hdigits := hcount candidates.length hlength
  have hitems := byteLength_renderItems_concat candidate.publicResult.normal
    (normalItems (candidates.map (·.publicResult)))
  have hmap : normalItems (candidates.map (·.publicResult)) ++ [candidate.publicResult.normal] =
      normalItems ((candidates ++ [candidate]).map (·.publicResult)) := by
    simp only [normalItems_eq_map, List.map_append, List.map_cons, List.map_nil]
  rw [hmap] at hitems
  obtain ⟨before, middle, after, hframe⟩ :=
    exists_frame publisher eventId batchId occurredAt periodStart periodStop
  have hlengths : (candidates ++ [candidate]).length = candidates.length + 1 := by simp
  simp only [payloadBytes, canonicalJson, utf8ByteSize_ofList, hframe, byteLength_append,
    byteLength_cons, hlengths]
  omega

end Sizes

/-! ### The schema of a batch -/

/-- A candidate as `candidateFromRow` makes it: its result passes `matchResultSchema`, and it is the
result of the candidate's round at the candidate's completion. -/
structure ValidCandidate (J : JsRuntime) (candidate : MatchPublicationCandidate) : Prop where
  result : (matchResultSchema J).Accepts candidate.publicResult
  completedAt : candidate.publicResult.text "completed_at" = some candidate.completedAt
  roundId : candidate.publicResult.text "round_id" = some candidate.roundId

section Acceptance

variable {J : JsRuntime} {candidate : MatchPublicationCandidate}

theorem ValidCandidate.parsed (h : ValidCandidate J candidate) :
    ∃ d, (matchResultShape J).parse candidate.publicResult = some d ∧
      ∀ key, d.text key = candidate.publicResult.text key := by
  obtain ⟨d, hd⟩ := h.result
  have hsame : d.normal = candidate.publicResult.normal := verbatim_matchResultSchema J _ _ hd
  refine ⟨d, (refine_eq_some.mp hd).1, fun key => ?_⟩
  rw [← Json.text_normal, hsame, Json.text_normal]

theorem ValidCandidate.datetime (h : ValidCandidate J candidate) :
    J.datetime candidate.completedAt = true := by
  obtain ⟨d, hd, htexts⟩ := h.parsed
  obtain ⟨text, htext, hdatetime⟩ := text_required hd "completed_at" (p := J.datetime)
    (List.mem_cons_of_mem _ List.mem_cons_self)
  rw [htexts, h.completedAt] at htext
  rw [Option.some.inj htext]
  exact hdatetime

theorem verbatim_matchEvent (J : JsRuntime) :
    (matchEvent J "match_results_batch" (matchBatchData J)).Verbatim := by
  have hdata : (matchBatchData J).Verbatim :=
    verbatim_strictObject (by
      simp only [List.forall_mem_cons]
      exact ⟨verbatim_stringOf, verbatim_stringOf, verbatim_stringOf, verbatim_stringOf,
        verbatim_integer, verbatim_array (verbatim_matchResultSchema J), fun _ h => (by cases h)⟩)
  refine verbatim_strictObject ?_
  simp only [List.forall_mem_cons]
  exact ⟨verbatim_integer, verbatim_stringOf, verbatim_integer, verbatim_stringOf, verbatim_stringOf,
    hdata, fun _ h => (by cases h)⟩

variable {publisher eventId batchId occurredAt periodStart periodStop : String}
  {candidates : List MatchPublicationCandidate}

theorem rel_of_mem_zip_tail {α : Type} {R : α → α → Prop} : ∀ {items : List α}, items.Pairwise R →
    ∀ pair ∈ items.zip items.tail, R pair.1 pair.2
  | [], _, pair, hpair => absurd hpair List.not_mem_nil
  | [item], _, pair, hpair => absurd hpair List.not_mem_nil
  | item :: next :: items, h, pair, hpair => by
    rw [List.tail_cons, List.zip_cons_cons] at hpair
    obtain ⟨hitem, hrest⟩ := List.pairwise_cons.mp h
    rcases List.mem_cons.mp hpair with rfl | hpair
    · exact hitem next List.mem_cons_self
    · exact rel_of_mem_zip_tail hrest pair hpair

/-- **The rules of a batch** hold for candidates in order and inside the period. -/
theorem matchBatchRules_createEvent (hvalid : ∀ c ∈ candidates, ValidCandidate J c)
    (hsorted : candidates.Pairwise (compareCandidates J))
    (hrounds : (candidates.map (·.roundId)).Nodup)
    (hperiod : J.dateParse periodStart < J.dateParse periodStop)
    (hinside : ∀ c ∈ candidates, J.dateParse periodStart ≤ J.dateParse c.completedAt ∧
      J.dateParse c.completedAt < J.dateParse periodStop) :
    MatchBatchRules J
      (createEvent candidates publisher eventId batchId occurredAt periodStart periodStop) := by
  have hresults : ((candidates.map (·.publicResult)).map fun result =>
      (EventSchema.date J result "completed_at", (result.text "round_id").getD "")) =
        candidates.map fun c => (J.dateParse c.completedAt, c.roundId) := by
    rw [List.map_map]
    refine List.map_congr_left fun c hc => ?_
    rw [Function.comp_apply, EventSchema.date, (hvalid c hc).completedAt, (hvalid c hc).roundId]
    rfl
  have hitems : (EventSchema.data (createEvent candidates publisher eventId batchId occurredAt
      periodStart periodStop)).items "results" = candidates.map (·.publicResult) := rfl
  have hstart : EventSchema.date J (EventSchema.data (createEvent candidates publisher eventId batchId
      occurredAt periodStart periodStop)) "period_start" = J.dateParse periodStart := rfl
  have hend : EventSchema.date J (EventSchema.data (createEvent candidates publisher eventId batchId
      occurredAt periodStart periodStop)) "period_end" = J.dateParse periodStop := rfl
  have hcount : ((EventSchema.data (createEvent candidates publisher eventId batchId occurredAt
      periodStart periodStop)).get "result_count").bind Json.asNumber =
        some (toString candidates.length) := rfl
  simp only [MatchBatchRules, hitems, hstart, hend, hcount, hresults, List.length_map]
  refine ⟨trivial, hperiod, fun result hresult => ?_, fun pair hpair => ?_, ?_⟩
  · obtain ⟨c, hc, rfl⟩ := List.mem_map.mp hresult
    exact hinside c hc
  · rw [← List.map_tail, List.zip_map] at hpair
    obtain ⟨cs, hcs, rfl⟩ := List.mem_map.mp hpair
    have horder := rel_of_mem_zip_tail hsorted cs hcs
    show ¬ (J.dateParse cs.2.completedAt < J.dateParse cs.1.completedAt ∨
      J.dateParse cs.1.completedAt = J.dateParse cs.2.completedAt ∧ cs.2.roundId < cs.1.roundId)
    rintro (hlater | ⟨htime, hround⟩)
    · rcases horder with hbefore | ⟨heq, -⟩
      · exact absurd hbefore (not_lt_of_gt hlater)
      · exact absurd heq (ne_of_gt hlater)
    · rcases horder with hbefore | ⟨-, hle⟩
      · exact absurd htime (ne_of_lt hbefore)
      · exact absurd hround (not_lt_of_ge hle)
  · rw [List.map_map]
    exact hrounds

/-- **A batch that the planner may build passes the schema.** -/
theorem accepts_createEvent (hpublisher : Gateway.hiveAccountSchema publisher = true)
    (heventId : isUuidV7 eventId = true) (hbatchId : isUuidV7 batchId = true)
    (hoccurred : J.datetime occurredAt = true) (hstart : J.datetime periodStart = true)
    (hstop : J.datetime periodStop = true) (hlength : 1 ≤ candidates.length ∧ candidates.length ≤ 20)
    (hvalid : ∀ c ∈ candidates, ValidCandidate J c)
    (hrules : MatchBatchRules J
      (createEvent candidates publisher eventId batchId occurredAt periodStart periodStop)) :
    (matchBatchSchema J).Accepts
      (createEvent candidates publisher eventId batchId occurredAt periodStart periodStop) := by
  have hplain : ∀ n ≤ 20, isPlainNumber (toString n).toList = true := by decide +kernel
  have hone : one.Accepts (.number "1") := accepts_integer (n := 1) (by decide) le_rfl le_rfl
  have hcount : (integer 1 20).Accepts (.number (toString candidates.length)) :=
    accepts_integer (hplain _ hlength.2) hlength.1 hlength.2
  have hresults : (array 1 20 (matchResultSchema J)).Accepts
      (.array (candidates.map (·.publicResult))) := by
    refine accepts_array.mpr ⟨by rwa [List.length_map], fun v hv => ?_⟩
    obtain ⟨c, hc, rfl⟩ := List.mem_map.mp hv
    exact (hvalid c hc).result
  have hdata : (matchBatchData J).Accepts (.object [
      ("batch_id", .string batchId), ("period_start", .string periodStart),
      ("period_end", .string periodStop), ("publisher", .string publisher),
      ("result_count", .number (toString candidates.length)),
      ("results", .array (candidates.map (·.publicResult)))]) := by
    rw [matchBatchData, accepts_strictObject]
    simp only [List.forall_mem_cons, List.not_mem_nil, false_implies, implies_true, Schema.required,
      Field.Accepts, List.lookup_cons, beq_self_eq_true, String.reduceBEq, uuidV7Schema,
      isoTimestampSchema, EventSchema.hiveAccountSchema, accepts_stringOf, and_true]
    exact ⟨by simp [Known], hbatchId, hstart, hstop, hpublisher, hcount, hresults⟩
  rw [matchBatchSchema, accepts_refine (verbatim_matchEvent J), decide_eq_true_eq]
  refine ⟨?_, hrules⟩
  rw [matchEvent, createEvent, accepts_strictObject]
  simp only [List.forall_mem_cons, List.not_mem_nil, false_implies, implies_true, Schema.required,
    Field.Accepts, List.lookup_cons, beq_self_eq_true, String.reduceBEq, uuidV7Schema,
    isoTimestampSchema, literal, accepts_stringOf, and_true]
  exact ⟨by simp [Known], hone, trivial, hone, heventId, hoccurred, hdata⟩

/-- **What is serialized** of an accepted batch: its canonical text, unless it is too long. -/
theorem serialize_createEvent (h : (matchBatchSchema J).Accepts
    (createEvent candidates publisher eventId batchId occurredAt periodStart periodStop)) :
    serializeHiveChameleonEvent J
        (createEvent candidates publisher eventId batchId occurredAt periodStart periodStop) =
      if payloadBytes (createEvent candidates publisher eventId batchId occurredAt periodStart
          periodStop) ≤ hiveChameleonMaxPayloadBytes then
        .ok (canonicalJson
          (createEvent candidates publisher eventId batchId occurredAt periodStart periodStop))
      else .error ⟨.payloadTooLarge, "Hive Chameleon payload exceeds 6 KiB"⟩ := by
  obtain ⟨d, hd⟩ := h
  have hsame : d.Same
      (createEvent candidates publisher eventId batchId occurredAt periodStart periodStop) :=
    verbatim_refine (verbatim_matchEvent J) _ _ hd
  have hparse : (hiveCodec J).safeParse
      (createEvent candidates publisher eventId batchId occurredAt periodStart periodStop) = some d := hd
  have htext : (hiveCodec J).canonicalJson d = canonicalJson
      (createEvent candidates publisher eventId batchId occurredAt periodStart periodStop) :=
    canonicalJson_congr hsame
  unfold serializeHiveChameleonEvent EventCodec.serializeHiveChameleonEvent
  simp only [hparse, htext]
  unfold EventCodec.assertPayloadSize require payloadBytes
  by_cases hsize : (canonicalJson (createEvent candidates publisher eventId batchId occurredAt
      periodStart periodStop)).utf8ByteSize ≤ hiveChameleonMaxPayloadBytes
  · rw [if_pos hsize, if_pos hsize]
    rfl
  · rw [if_neg hsize, if_neg hsize]
    rfl

end Acceptance

/-! ### The codec of the store -/

/-- The JavaScript values that ids and results of the store stand for. -/
structure StoreValues where
  uuidText : Uuid → String
  result : PublicMatchResult → Json
  uuidOf_uuidText : ∀ id, uuidOf (uuidText id) = id
  read_result : ∀ r read, readMatchResult (result r) = some read → read = r.toMatchResult

/-- A value for every id; a result may be a value that the schema refuses. -/
example : Nonempty StoreValues :=
  ⟨⟨Function.surjInv uuidOf_surjective, fun _ => .null, Function.surjInv_eq uuidOf_surjective,
    fun _ _ h => by cases h⟩⟩

section

variable {J : JsRuntime} (V : StoreValues)

theorem StoreValues.uuidText_injective : Function.Injective V.uuidText :=
  Function.LeftInverse.injective V.uuidOf_uuidText

/-- What `createEvent` builds for the batch. -/
def StoreValues.value (event : MatchBatchEvent) : Json :=
  createEvent
    (event.results.map fun r => ⟨"", "", V.uuidText r.roundId, toISOString r.completedAt, V.result r⟩)
    event.publisher (V.uuidText event.eventId) (V.uuidText event.batchId)
    (toISOString event.occurredAt) (toISOString event.periodStart) (toISOString event.periodEnd)

theorem StoreValues.readAll_results : ∀ {results : List PublicMatchResult} {read : List MatchResult},
    readAll readMatchResult (results.map V.result) = some read → read = results.map (·.toMatchResult)
  | [], read, h => (Option.some.inj h).symm
  | r :: results, read, h => by
    simp only [List.map_cons, readAll, Option.bind_eq_bind, Option.bind_eq_some_iff] at h
    obtain ⟨first, hfirst, rest, hrest, h⟩ := h
    obtain rfl := Option.some.inj h
    rw [V.read_result r first hfirst, StoreValues.readAll_results hrest, List.map_cons]

theorem StoreValues.batch_of_read {event : MatchBatchEvent} {batch : MatchResultsBatch}
    (h : readMatchResultsBatch (V.value event) = some batch) :
    batch.eventId = event.eventId ∧ batch.batchId = event.batchId ∧
      batch.results = event.results.map (·.toMatchResult) := by
  have hitems : (data (V.value event)).items "results" = event.results.map V.result := by
    show (event.results.map _).map _ = _
    rw [List.map_map]
    rfl
  simp only [readMatchResultsBatch, Option.bind_eq_bind, Option.bind_eq_some_iff] at h
  obtain ⟨eventId, heventId, _, -, value, hvalue, batchId, hbatchId, _, -, _, -, _, -, _, -, results,
    hresults, h⟩ := h
  obtain rfl : data (V.value event) = value := Option.some.inj hvalue
  obtain rfl : uuidOf (V.uuidText event.eventId) = eventId := Option.some.inj heventId
  obtain rfl : uuidOf (V.uuidText event.batchId) = batchId := Option.some.inj hbatchId
  rw [hitems] at hresults
  split at h
  · obtain rfl := Option.some.inj h
    exact ⟨V.uuidOf_uuidText _, V.uuidOf_uuidText _, V.readAll_results hresults⟩
  · cases h

theorem StoreValues.accepted {event : MatchBatchEvent} {d : Json}
    (h : (hiveChameleonEventSchema J).parse (V.value event) = some d) :
    ∃ batch, eventOf J d = .matchResultsBatch batch ∧ batch.eventId = event.eventId ∧
      batch.batchId = event.batchId ∧ batch.results = event.results.map (·.toMatchResult) := by
  have hsame : d.normal = (V.value event).normal :=
    verbatim_refine (verbatim_matchEvent J) _ _ (show (matchBatchSchema J).parse _ = some d from h)
  obtain ⟨again, hagain, hnext⟩ := isEvent_of_parse h
  have hread := readEvent_of_parse hagain
  rw [← readEvent_normal, show again.normal = d.normal from hnext, hsame, readEvent_normal, readEvent,
    if_pos (show (V.value event).text "type" = some "match_results_batch" from rfl)] at hread
  obtain ⟨batch, hbatch, hevent⟩ := Option.map_eq_some_iff.mp hread
  exact ⟨batch, hevent.symm, V.batch_of_read hbatch⟩

end

section

variable {J : JsRuntime} (P : Projector.PostgresTexts J) (sha256Hex : String → String)
  (V : StoreValues)

/-- The planner over the schema and the canonical JSON text. -/
def hivePlannerConfig : PlannerConfig where
  runtime := { P.runtime with sha256Hex := sha256Hex }
  codec := hiveCodec J
  value := V.value
  reads := Projector.parse_runtime P
  parse_canonical _ d h := by
    obtain ⟨d', htext, hd', hsame, hevent⟩ := parse_canonicalJson h
    exact ⟨_, d', htext, hd', canonicalJson_congr hsame, hevent⟩
  accepted _ _ h := V.accepted h

/-- The worker over the schema and the canonical JSON text. -/
def hiveWorkerConfig (authorization : OfficialServiceAuthorization)
    (transactionExpirationMs claimLeaseMs : ℤ) (initialRetryBackoffMs maximumRetryBackoffMs : ℕ) :
    WorkerConfig where
  runtime := { P.runtime with sha256Hex := sha256Hex }
  codec := hiveCodec J
  authorization := authorization
  transactionExpirationMs := transactionExpirationMs
  claimLeaseMs := claimLeaseMs
  initialRetryBackoffMs := initialRetryBackoffMs
  maximumRetryBackoffMs := maximumRetryBackoffMs
  uuidText := V.uuidText
  uuidText_injective := V.uuidText_injective
  reads := Projector.parse_runtime P

end

end HiveChameleon.Publisher.PublicMatch
