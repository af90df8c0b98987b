import HiveChameleon.Gateway.Policy
import HiveChameleon.Publisher.Quiet

/-!
# Publisher.Planning — `batch-builder.ts`, and `freezeNextBatch` from its candidates

The candidate query locks requests and joins their results; which requests another worker has
locked is left open.  The planner sorts the candidates, takes a prefix that fits, and serializes
it; a candidate that cannot be published is deferred instead.
-/

namespace HiveChameleon.Publisher

open Gateway Lib Nakama

/-! ### Candidates -/

structure PublicMatchResult extends MatchResult where
  completedAt : Timestamp
deriving DecidableEq

/-- `MatchPublicationCandidate` with all that the planner reads of it. -/
structure PlannedCandidate extends MatchPublicationCandidate where
  completedAt : Timestamp
  publicResult : PublicMatchResult
deriving DecidableEq

/-- A row of the candidate query.  `publicResult` is what `matchResultSchema` makes of the joined
columns; it keeps the round. -/
structure CandidateRow where
  publicationRequestId : Uuid
  resultRevisionId : Uuid
  roundId : Uuid
  completedAt : Timestamp
  publicResult : Option MatchResult
  round_eq : ∀ result ∈ publicResult, result.roundId = roundId

/-- The codes of a `MatchPublisherError` that planning raises. -/
inductive PlanningErrorCode where
  | configurationInvalid | invalidCandidate | payloadTooLarge
deriving DecidableEq, Repr

def candidateFromRow (row : CandidateRow) : Except PlanningErrorCode PlannedCandidate :=
  match row.publicResult with
  | none => .error .invalidCandidate
  | some result => .ok
    { publicationRequestId := row.publicationRequestId
      resultRevisionId := row.resultRevisionId
      roundId := row.roundId
      completedAt := row.completedAt
      publicResult := { result with completedAt := row.completedAt } }

/-- The loop over the rows: the candidates, or the first row that is none and why. -/
def candidatesFromRows : List CandidateRow →
    Except (CandidateRow × PlanningErrorCode) (List PlannedCandidate)
  | [] => .ok []
  | row :: rows =>
    match candidateFromRow row with
    | .error code => .error (row, code)
    | .ok candidate => (candidatesFromRows rows).map fun candidates => candidate :: candidates

/-! ### `planMatchBatch` -/

structure MatchBatchPolicy where
  publisherAccount : String
  maximumAgeMs : ℤ
  maximumResults : ℕ
  maximumPayloadBytes : ℕ

def validatePolicy (policy : MatchBatchPolicy) : Except PlanningErrorCode Unit :=
  require (1000 ≤ policy.maximumAgeMs ∧ 1 ≤ policy.maximumResults ∧ policy.maximumResults ≤ 20 ∧
    512 ≤ policy.maximumPayloadBytes ∧ policy.maximumPayloadBytes ≤ 6 * 1024) .configurationInvalid

/-- What `compareCandidates` sorts by; it is not positive. -/
def compareCandidates (left right : PlannedCandidate) : Prop :=
  left.completedAt < right.completedAt ∨
    left.completedAt = right.completedAt ∧ left.roundId.val ≤ right.roundId.val

instance (left right : PlannedCandidate) : Decidable (compareCandidates left right) :=
  inferInstanceAs (Decidable (_ ∨ _))

/-- The loop of `assertCandidates`, with the rounds and requests seen so far. -/
def assertCandidates (now : Timestamp) :
    List Uuid → List Uuid → List PlannedCandidate → Except PlanningErrorCode Unit
  | _, _, [] => .ok ()
  | rounds, requests, candidate :: candidates => do
    require (candidate.completedAt ≤ now ∧
      candidate.publicResult.completedAt = candidate.completedAt ∧
      candidate.publicResult.roundId = candidate.roundId) .invalidCandidate
    require (candidate.roundId ∉ rounds ∧ candidate.publicationRequestId ∉ requests) .invalidCandidate
    assertCandidates now (candidate.roundId :: rounds) (candidate.publicationRequestId :: requests)
      candidates

/-- What the ID provider gives for a batch. -/
structure BatchIds where
  eventId : Uuid
  batchId : Uuid
  outboxId : Uuid

/-- The event of a batch before the schema has seen it. -/
structure MatchBatchEvent where
  eventId : Uuid
  occurredAt : Timestamp
  batchId : Uuid
  periodStart : Timestamp
  periodEnd : Timestamp
  publisher : String
  resultCount : ℕ
  results : List PublicMatchResult

def createEvent (publisher : String) (ids : BatchIds) (occurredAt periodStart periodEnd : Timestamp)
    (candidates : List PlannedCandidate) : MatchBatchEvent where
  eventId := ids.eventId
  occurredAt := occurredAt
  batchId := ids.batchId
  periodStart := periodStart
  periodEnd := periodEnd
  publisher := publisher
  resultCount := candidates.length
  results := candidates.map (·.publicResult)

/-- The gateway of the planner: an event is a JavaScript value, and the schema and the canonical
JSON text keep what they are given. -/
structure PlannerConfig where
  runtime : PublisherRuntime
  codec : EventCodec
  value : MatchBatchEvent → codec.Value
  /-- The store and the gateway read payloads with one parser. -/
  reads : ∀ payload event, parseHiveChameleonEvent runtime.toRuntime payload = .ok event ↔
    ∃ data, codec.parseHiveChameleonEvent payload = .ok data ∧ codec.event data = event
  /-- The canonical text of accepted data reads back as the same event, and has no second text. -/
  parse_canonical : ∀ value data, codec.safeParse value = some data →
    ∃ value' data', codec.parseJson (codec.canonicalJson data) = some value' ∧
      codec.safeParse value' = some data' ∧
      codec.canonicalJson data' = codec.canonicalJson data ∧ codec.event data' = codec.event data
  /-- The schema returns the event it accepts. -/
  accepted : ∀ event data, codec.safeParse (value event) = some data →
    ∃ batch, codec.event data = .matchResultsBatch batch ∧ batch.eventId = event.eventId ∧
      batch.batchId = event.batchId ∧ batch.results = event.results.map (·.toMatchResult)

variable (P : PlannerConfig)

/-- The loop of `planMatchBatch`: the selected candidates, their payload, and whether the payload
limit stopped it. -/
def selectCandidates (maximumPayloadBytes : ℕ) (event : List PlannedCandidate → MatchBatchEvent) :
    List PlannedCandidate → String → List PlannedCandidate →
      Except PlanningErrorCode (List PlannedCandidate × String × Bool)
  | selected, payload, [] => .ok (selected, payload, false)
  | selected, payload, candidate :: candidates =>
    let tentative := selected ++ [candidate]
    match P.codec.serializeHiveChameleonEvent (P.value (event tentative)) with
    | .error e =>
      if e.code ≠ .payloadTooLarge then .error .invalidCandidate
      else if selected = [] then .error .payloadTooLarge
      else .ok (selected, payload, true)
    | .ok text =>
      if maximumPayloadBytes < text.utf8ByteSize then
        if selected = [] then .error .payloadTooLarge else .ok (selected, payload, true)
      else selectCandidates maximumPayloadBytes event tentative text candidates

/-- `planMatchBatch`; no ids stand for a provider of invalid ones. -/
def planMatchBatch (candidates : List PlannedCandidate) (now : Timestamp) (policy : MatchBatchPolicy)
    (ids : Option BatchIds) : Except PlanningErrorCode (Option FrozenMatchBatch) := do
  validatePolicy policy
  match candidates.insertionSort compareCandidates with
  | [] => pure none
  | oldest :: later => do
    let ordered := oldest :: later
    assertCandidates now [] [] ordered
    match ids with
    | none => .error .configurationInvalid
    | some ids => do
      let latest := ((ordered.take policy.maximumResults).getLastD oldest).completedAt
      let periodEnd := if latest < now then now else latest + 1
      let event := createEvent policy.publisherAccount ids now oldest.completedAt periodEnd
      let (selected, payload, limit) ← selectCandidates P policy.maximumPayloadBytes event [] ""
        (ordered.take policy.maximumResults)
      require (selected ≠ [] ∧ payload ≠ "") .invalidCandidate
      if policy.maximumAgeMs ≤ now - oldest.completedAt ∨ selected.length = policy.maximumResults ∨
          limit = true then
        pure (some
          { outboxId := ids.outboxId
            eventId := ids.eventId
            batchId := ids.batchId
            canonicalPayload := payload
            payloadSha256 := P.runtime.sha256Hex payload
            payloadByteCount := payload.utf8ByteSize
            publicationPeriodStart := oldest.completedAt
            publicationPeriodEnd := periodEnd
            candidates := selected.map (·.toMatchPublicationCandidate) })
      else pure none

/-! ### `freezeNextBatch` -/

/-- A call of `freezeNextBatch`, with what its query returns and its ID provider gives. -/
structure FreezeCall where
  now : Timestamp
  policy : MatchBatchPolicy
  rows : List CandidateRow
  ids : Option BatchIds
  itemIds : ℕ → Uuid

/-- The `WHERE` of the candidate query on a request and its round. -/
structure IsCandidate (now : Timestamp) (p : PublicationTables) (row : CandidateRow)
    (request : RequestRow) : Prop where
  id : request.id = row.publicationRequestId
  round : request.roundId = row.roundId
  revision : request.resultRevisionId = row.resultRevisionId
  type : request.requestType = .initial
  state : request.state = .queued ∨ request.state = .retryableFailed
  due : ∀ retryAt ∈ request.nextRetryAt, retryAt ≤ now
  completed : ∃ round ∈ p.round, round.id = row.roundId ∧ round.status = .completed

/-- What the candidate query may return: requests that are due, oldest first, up to the limit.
Locked ones are skipped, and so are those that a join drops. -/
structure CandidateRows (p : PublicationTables) (call : FreezeCall) : Prop where
  candidate : ∀ row ∈ call.rows, ∃ request ∈ p.request, IsCandidate call.now p row request
  ordered : call.rows.Pairwise fun a b => a.completedAt ≤ b.completedAt
  limit : call.rows.length ≤ call.policy.maximumResults + 1

/-- `deferInvalidRequest` with the code of an error and an hour's delay. -/
def deferCandidate (id : Uuid) (now : Timestamp) (code : PlanningErrorCode)
    (p : PublicationTables) : Except PublisherFailure PublicationTables :=
  deferInvalidRequest id
    (if code = .payloadTooLarge then "payload_too_large" else "invalid_candidate")
    now (now + 60 * 60 * 1000) p

/-- `freezeNextBatch` from the candidate rows: the frozen batch, if any, and the tables it commits. -/
def freezeCandidates (call : FreezeCall) (p : PublicationTables) :
    Except PublisherFailure (Option FrozenMatchBatch × PublicationTables) :=
  match candidatesFromRows call.rows with
  | .error (row, code) => do
    let p ← deferCandidate row.publicationRequestId call.now code p
    pure (none, p)
  | .ok candidates =>
    match planMatchBatch P candidates call.now call.policy call.ids with
    | .error code =>
      match candidates with
      | [] => pure (none, p)
      | first :: _ => do
        let p ← deferCandidate first.publicationRequestId call.now code p
        pure (none, p)
    | .ok none => pure (none, p)
    | .ok (some frozen) => do
      let p ← freezeNextBatch frozen call.policy.publisherAccount call.itemIds call.now p
      pure (some frozen, p)

/-! ### What is planned -/

section Spec

variable {P} {now : Timestamp} {policy : MatchBatchPolicy}

theorem serialized_reads {event : MatchBatchEvent} {payload : String}
    (h : P.codec.serializeHiveChameleonEvent (P.value event) = .ok payload) :
    ∃ batch, parseHiveChameleonEvent P.runtime.toRuntime payload = .ok (.matchResultsBatch batch) ∧
      batch.eventId = event.eventId ∧ batch.batchId = event.batchId ∧
      batch.results = event.results.map (·.toMatchResult) := by
  unfold EventCodec.serializeHiveChameleonEvent at h
  split at h
  · cases h
  · rename_i data hdata
    simp only [EventCodec.assertPayloadSize, bind_eq_ok, exists_unit, require_eq_ok, pure_eq_ok] at h
    obtain ⟨hsize, rfl⟩ := h
    obtain ⟨batch, hevent, hids⟩ := P.accepted event data hdata
    obtain ⟨value', data', hjson, hdata', htext, hsame⟩ := P.parse_canonical _ data hdata
    have hparse : P.codec.parseHiveChameleonEvent (P.codec.canonicalJson data) = .ok data' :=
      P.codec.parseHiveChameleonEvent_eq_ok.mpr ⟨hsize, ⟨value', hjson, hdata'⟩, htext⟩
    exact ⟨batch, (P.reads _ _).mpr ⟨data', hparse, hsame.trans hevent⟩, hids⟩

theorem selectCandidates_eq_ok {maximumPayloadBytes : ℕ}
    {event : List PlannedCandidate → MatchBatchEvent} :
    ∀ {candidates selected selected' : List PlannedCandidate} {payload payload' : String} {limit : Bool},
      selectCandidates P maximumPayloadBytes event selected payload candidates =
        .ok (selected', payload', limit) →
      (selected ≠ [] → P.codec.serializeHiveChameleonEvent (P.value (event selected)) = .ok payload) →
      (selected' ≠ [] →
        P.codec.serializeHiveChameleonEvent (P.value (event selected')) = .ok payload') ∧
      ∀ c ∈ selected', c ∈ selected ∨ c ∈ candidates
  | [], selected, selected', payload, payload', limit, h, hpayload => by
    simp only [selectCandidates, Except.ok.injEq, Prod.mk.injEq] at h
    obtain ⟨rfl, rfl, -⟩ := h
    exact ⟨hpayload, fun c hc => .inl hc⟩
  | candidate :: candidates, selected, selected', payload, payload', limit, h, hpayload => by
    have hstop : (.ok (selected, payload, true) : Except PlanningErrorCode _) =
        .ok (selected', payload', limit) →
        (selected' ≠ [] →
          P.codec.serializeHiveChameleonEvent (P.value (event selected')) = .ok payload') ∧
        ∀ c ∈ selected', c ∈ selected ∨ c ∈ candidate :: candidates := by
      intro heq
      simp only [Except.ok.injEq, Prod.mk.injEq] at heq
      obtain ⟨rfl, rfl, -⟩ := heq
      exact ⟨hpayload, fun c hc => .inl hc⟩
    simp only [selectCandidates] at h
    split at h
    · split at h
      · cases h
      · split at h
        · cases h
        · exact hstop h
    · rename_i text hserialized
      split at h
      · split at h
        · cases h
        · exact hstop h
      · obtain ⟨hread, hfrom⟩ := selectCandidates_eq_ok h fun _ => hserialized
        refine ⟨hread, fun c hc => ?_⟩
        rcases hfrom c hc with hc | hc
        · rcases List.mem_append.mp hc with hc | hc
          · exact .inl hc
          · rw [List.mem_singleton.mp hc]
            exact .inr List.mem_cons_self
        · exact .inr (List.mem_cons_of_mem _ hc)

theorem assertCandidates_eq_ok :
    ∀ {rounds requests : List Uuid} {candidates : List PlannedCandidate},
      assertCandidates now rounds requests candidates = .ok () →
        ∀ c ∈ candidates, c.publicResult.roundId = c.roundId
  | _, _, [], _, c, hc => absurd hc List.not_mem_nil
  | rounds, requests, candidate :: candidates, h, c, hc => by
    simp only [assertCandidates, bind_eq_ok, exists_unit, require_eq_ok] at h
    obtain ⟨⟨-, -, hround⟩, -, hrest⟩ := h
    rcases List.mem_cons.mp hc with rfl | hc
    · exact hround
    · exact assertCandidates_eq_ok hrest c hc

/-- **What a planned batch is**: some of the candidates, with the payload of their results. -/
theorem planMatchBatch_eq_some {candidates : List PlannedCandidate} {ids : Option BatchIds}
    {frozen : FrozenMatchBatch}
    (h : planMatchBatch P candidates now policy ids = .ok (some frozen)) :
    ∃ selected : List PlannedCandidate, ∃ event : MatchBatchEvent,
      (∀ c ∈ selected, c ∈ candidates ∧ c.publicResult.roundId = c.roundId) ∧
      frozen.candidates = selected.map (·.toMatchPublicationCandidate) ∧
      event.results = selected.map (·.publicResult) ∧
      event.eventId = frozen.eventId ∧ event.batchId = frozen.batchId ∧
      P.codec.serializeHiveChameleonEvent (P.value event) = .ok frozen.canonicalPayload := by
  simp only [planMatchBatch, bind_eq_ok, exists_unit] at h
  obtain ⟨-, h⟩ := h
  split at h
  · simp only [pure_eq_ok, reduceCtorEq] at h
  · rename_i oldest later hordered
    simp only [bind_eq_ok, exists_unit] at h
    obtain ⟨hassert, h⟩ := h
    split at h
    · cases h
    · rename_i batchIds
      simp only [bind_eq_ok, exists_unit, require_eq_ok, Prod.exists] at h
      obtain ⟨selected, payload, limit, hselected, ⟨hsome, -⟩, h⟩ := h
      split at h
      · simp only [pure_eq_ok, Option.some.injEq] at h
        obtain rfl := h
        obtain ⟨hread, hfrom⟩ := selectCandidates_eq_ok hselected fun hnil => absurd rfl hnil
        refine ⟨selected, _, fun c hc => ?_, rfl, rfl, rfl, rfl, hread hsome⟩
        have hin : c ∈ oldest :: later := by
          rcases hfrom c hc with hc | hc
          · exact absurd hc List.not_mem_nil
          · exact List.mem_of_mem_take hc
        refine ⟨?_, assertCandidates_eq_ok hassert c hin⟩
        rw [← hordered, List.mem_insertionSort] at hin
        exact hin
      · simp only [pure_eq_ok, reduceCtorEq] at h

theorem candidatesFromRows_eq_ok :
    ∀ {rows : List CandidateRow} {candidates : List PlannedCandidate},
      candidatesFromRows rows = .ok candidates →
        ∀ c ∈ candidates, ∃ row ∈ rows, c.publicationRequestId = row.publicationRequestId
  | [], candidates, h, c, hc => by
    obtain rfl := Except.ok.inj h
    exact absurd hc List.not_mem_nil
  | row :: rows, candidates, h, c, hc => by
    simp only [candidatesFromRows] at h
    split at h
    · cases h
    · rename_i candidate hcandidate
      cases hrest : candidatesFromRows rows with
      | error e =>
        rw [hrest] at h
        cases h
      | ok rest =>
        rw [hrest] at h
        obtain rfl := Except.ok.inj h
        rcases List.mem_cons.mp hc with rfl | hc
        · refine ⟨row, List.mem_cons_self, ?_⟩
          unfold candidateFromRow at hcandidate
          split at hcandidate
          · cases hcandidate
          · obtain rfl := Except.ok.inj hcandidate
            rfl
        · obtain ⟨row', hrow', hid⟩ := candidatesFromRows_eq_ok hrest c hc
          exact ⟨row', List.mem_cons_of_mem _ hrow', hid⟩

theorem candidatesFromRows_eq_error :
    ∀ {rows : List CandidateRow} {row : CandidateRow} {code : PlanningErrorCode},
      candidatesFromRows rows = .error (row, code) → row ∈ rows
  | [], row, code, h => by cases h
  | head :: rows, row, code, h => by
    simp only [candidatesFromRows] at h
    split at h
    · obtain ⟨rfl, -⟩ := Prod.mk.inj (Except.error.inj h)
      exact List.mem_cons_self
    · cases hrest : candidatesFromRows rows with
      | error e =>
        rw [hrest] at h
        obtain rfl := Except.error.inj h
        exact List.mem_cons_of_mem _ (candidatesFromRows_eq_error hrest)
      | ok rest =>
        rw [hrest] at h
        cases h

/-- **The outcomes of `freezeNextBatch`**: nothing, a deferred candidate, or a frozen batch of
candidates. -/
theorem freezeCandidates_cases {call : FreezeCall} {p p' : PublicationTables}
    {result : Option FrozenMatchBatch} (h : freezeCandidates P call p = .ok (result, p')) :
    result = none ∧ p' = p ∨
      (∃ row ∈ call.rows, ∃ code,
        result = none ∧ deferCandidate row.publicationRequestId call.now code p = .ok p') ∨
      ∃ frozen candidates, result = some frozen ∧
        (∀ c ∈ candidates, ∃ row ∈ call.rows, c.publicationRequestId = row.publicationRequestId) ∧
        planMatchBatch P candidates call.now call.policy call.ids = .ok (some frozen) ∧
        freezeNextBatch frozen call.policy.publisherAccount call.itemIds call.now p = .ok p' := by
  unfold freezeCandidates at h
  split at h
  · rename_i row code hrows
    simp only [bind_eq_ok, pure_eq_ok, Prod.mk.injEq] at h
    obtain ⟨q, hdefer, rfl, rfl⟩ := h
    exact .inr (.inl ⟨row, candidatesFromRows_eq_error hrows, code, rfl, hdefer⟩)
  · rename_i candidates hrows
    have hfrom := candidatesFromRows_eq_ok hrows
    split at h
    · rename_i code hplan
      split at h
      · simp only [pure_eq_ok, Prod.mk.injEq] at h
        exact .inl ⟨h.1.symm, h.2.symm⟩
      · rename_i first later
        simp only [bind_eq_ok, pure_eq_ok, Prod.mk.injEq] at h
        obtain ⟨q, hdefer, rfl, rfl⟩ := h
        obtain ⟨row, hrow, hid⟩ := hfrom first List.mem_cons_self
        exact .inr (.inl ⟨row, hrow, code, rfl, hid ▸ hdefer⟩)
    · simp only [pure_eq_ok, Prod.mk.injEq] at h
      exact .inl ⟨h.1.symm, h.2.symm⟩
    · rename_i frozen hplan
      simp only [bind_eq_ok, pure_eq_ok, Prod.mk.injEq] at h
      obtain ⟨q, hfreeze, rfl, rfl⟩ := h
      exact .inr (.inr ⟨frozen, candidates, rfl, hfrom, hplan, hfreeze⟩)

end Spec

end HiveChameleon.Publisher
