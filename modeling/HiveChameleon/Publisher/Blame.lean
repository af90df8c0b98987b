import HiveChameleon.Publisher.BatchPlan
import HiveChameleon.Publisher.System

/-!
# Publisher.Blame — which request a failed planning defers

`freezeNextBatch` defers the request of the row that it cannot read; when the planner fails it defers the
request of the first row of the database.  The planner fails for any candidate in the future, and for
the first candidate in its own order when that alone is too large, so the deferred request is the one
at fault exactly when the row at fault comes first in the database.
-/

namespace HiveChameleon.Publisher.PublicMatch

open Gateway Gateway.EventSchema Gateway.Schema Lib

/-! ### `freezeNextBatch` -/

/-- A call of `freezeNextBatch`, with the rows that its query returns. -/
structure FreezeCall where
  now : ℤ
  policy : MatchBatchPolicy
  rows : List CandidateRow
  ids : DrawnIds
  itemIds : ℕ → Uuid

/-- The batch as the store writes it. -/
def FrozenMatchBatch.stored (J : JsRuntime) (frozen : FrozenMatchBatch) :
    Publisher.FrozenMatchBatch where
  outboxId := uuidOf frozen.outboxId
  eventId := uuidOf frozen.eventId
  batchId := uuidOf frozen.batchId
  canonicalPayload := frozen.canonicalPayload
  payloadSha256 := frozen.payloadSha256
  payloadByteCount := frozen.payloadByteCount
  publicationPeriodStart := J.dateParse frozen.publicationPeriodStart
  publicationPeriodEnd := J.dateParse frozen.publicationPeriodEnd
  candidates := frozen.candidates.map fun c =>
    ⟨uuidOf c.publicationRequestId, uuidOf c.resultRevisionId, uuidOf c.roundId⟩

/-- The code that `deferInvalidRequest` records. -/
def deferredCode (error : MatchPublisherError) : String :=
  if error.code = "payload_too_large" then "payload_too_large" else "invalid_candidate"

section

variable (J : JsRuntime) (sha256Hex : String → String)

/-- The loop over the rows: the candidates, or the row that is none and why. -/
def candidatesFromRows : List CandidateRow →
    Except (CandidateRow × MatchPublisherError) (List MatchPublicationCandidate)
  | [] => .ok []
  | row :: rows =>
    match candidateFromRow J row with
    | .error e => .error (row, e)
    | .ok candidate =>
      match candidatesFromRows rows with
      | .error failure => .error failure
      | .ok candidates => .ok (candidate :: candidates)

/-- The planning of `freezeNextBatch`: a batch, or the request that is deferred and the error. -/
def planNextBatch (call : FreezeCall) :
    Except (Option String × MatchPublisherError) (Option FrozenMatchBatch) :=
  match candidatesFromRows J call.rows with
  | .error (row, e) => .error (some row.publicationRequestId, e)
  | .ok candidates =>
    match planMatchBatch J sha256Hex candidates call.now call.policy call.ids with
    | .error e => .error (candidates.head?.map (·.publicationRequestId), e)
    | .ok frozen => .ok frozen

/-- `freezeNextBatch`: what it returns or raises, and the tables that it commits. -/
def freezeNextBatch (call : FreezeCall) (p : PublicationTables) : Except PublisherFailure
    (Except MatchPublisherError (Option FrozenMatchBatch) × PublicationTables) :=
  match planNextBatch J sha256Hex call with
  | .error (none, e) => .ok (.error e, p)
  | .error (some request, e) => do
    let p ← deferInvalidRequest (uuidOf request) (deferredCode e) call.now
      (call.now + 60 * 60 * 1000) p
    pure (.error e, p)
  | .ok none => .ok (.ok none, p)
  | .ok (some frozen) => do
    let p ← Publisher.freezeNextBatch (frozen.stored J) call.policy.publisherAccount call.itemIds
      call.now p
    pure (.ok (some frozen), p)

/-! ### The row at fault -/

/-- The round of the row is completed after the clock. -/
def InFuture (call : FreezeCall) (row : CandidateRow) : Prop :=
  call.now < J.dateParse (toISOString row.completedAt)

/-- The candidate alone exceeds the payload limit. -/
def AloneTooLarge (call : FreezeCall) (candidates : List MatchPublicationCandidate)
    (candidate : MatchPublicationCandidate) : Prop :=
  call.policy.maximumPayloadBytes <
    payloadBytes (batchEvent J call.now call.policy call.ids candidates [candidate])

/-- **The row because of which planning fails**: it cannot be read, it is in the future, or the planner
cannot publish it alone. -/
inductive FailsBecauseOf (call : FreezeCall) (row : CandidateRow) : Prop where
  | invalid {e : MatchPublisherError} (h : candidateFromRow J row = .error e)
  | future {candidates : List MatchPublicationCandidate}
      (hread : candidatesFromRows J call.rows = .ok candidates) (h : InFuture J call row)
  | tooLarge {candidates : List MatchPublicationCandidate} {candidate : MatchPublicationCandidate}
      (hread : candidatesFromRows J call.rows = .ok candidates)
      (hcompleted : ∀ other ∈ call.rows, ¬ InFuture J call other)
      (hrow : candidateFromRow J row = .ok candidate)
      (hfirst : (inOrder J candidates).head? = some candidate)
      (h : AloneTooLarge J call candidates candidate)

/-- **The deferred row is at fault**: when planning fails, the deferred request is that of a row because of which
it fails, and every other request keeps its state. -/
def BlamesOffender (call : FreezeCall) : Prop :=
  ∀ request e, planNextBatch J sha256Hex call = .error (request, e) →
    ∃ row ∈ call.rows, request = some row.publicationRequestId ∧ FailsBecauseOf J call row ∧
      ∀ p result p', freezeNextBatch J sha256Hex call p = .ok (result, p') →
        ∀ other : RequestRow, other.id ≠ uuidOf row.publicationRequestId →
          (other ∈ p'.request ↔ other ∈ p.request)

/-- The condition: unless a row cannot be read, a row in the future comes after none that is not, and a
candidate that the planner cannot publish alone is the first of the database. -/
def FirstAtFault (call : FreezeCall) : Prop :=
  ∀ candidates, candidatesFromRows J call.rows = .ok candidates →
    ((∃ row ∈ call.rows, InFuture J call row) → ∃ row ∈ call.rows.head?, InFuture J call row) ∧
      ((∀ row ∈ call.rows, ¬ InFuture J call row) → ∀ first ∈ (inOrder J candidates).head?,
        AloneTooLarge J call candidates first → candidates.head? = some first)

/-- A valid configuration, and rows of different requests and rounds.  The clock and the next millisecond
have timestamps that the runtime reads back. -/
structure Configured (call : FreezeCall) : Prop where
  validPolicy : validatePolicy call.policy = .ok ()
  publisher : Gateway.hiveAccountSchema call.policy.publisherAccount = true
  eventId : isUuidV7 call.ids.eventId = true
  batchId : isUuidV7 call.ids.batchId = true
  outboxId : isUuidV7 call.ids.outboxId = true
  requests : (call.rows.map (·.publicationRequestId)).Nodup
  rounds : (call.rows.map (·.roundId)).Nodup
  datetime : ∀ ms, J.datetime (toISOString ms) = true ↔ 0 ≤ isoYear ms ∧ isoYear ms ≤ 9999
  years : ∀ ms ∈ [call.now, call.now + 1], 0 ≤ isoYear ms ∧ isoYear ms ≤ 9999
  reads : ∀ ms ∈ [call.now, call.now + 1], J.dateParse (toISOString ms) = ms

end

/-! ### From rows to candidates -/

section Rows

variable {J : JsRuntime} {row : CandidateRow} {candidate : MatchPublicationCandidate}

/-- **A candidate made of a row** is valid, and it is of the row's request, round and completion. -/
theorem candidateFromRow_eq_ok (h : candidateFromRow J row = .ok candidate) :
    ValidCandidate J candidate ∧ candidate.publicationRequestId = row.publicationRequestId ∧
      candidate.roundId = row.roundId ∧ candidate.completedAt = toISOString row.completedAt := by
  unfold candidateFromRow at h
  cases hparse : (matchResultSchema J).parse row.base with
  | none =>
    rw [hparse] at h
    cases h
  | some data =>
    rw [hparse] at h
    obtain rfl := Except.ok.inj h
    have hsame : data.normal = row.base.normal := verbatim_matchResultSchema J _ _ hparse
    have htext : ∀ key, data.text key = row.base.text key := fun key => by
      rw [← Json.text_normal, hsame, Json.text_normal]
    obtain ⟨again, hagain, -⟩ := Option.map_eq_some_iff.mp ((matchResultSchema J).stable _ data hparse)
    exact ⟨⟨⟨again, hagain⟩, htext "completed_at", htext "round_id"⟩, rfl, rfl, rfl⟩

theorem candidatesFromRows_eq_ok : ∀ {rows : List CandidateRow}
    {candidates : List MatchPublicationCandidate}, candidatesFromRows J rows = .ok candidates →
      List.Forall₂ (fun row candidate => candidateFromRow J row = .ok candidate) rows candidates
  | [], candidates, h => by
    obtain rfl : [] = candidates := Except.ok.inj h
    exact .nil
  | row :: rows, candidates, h => by
    unfold candidatesFromRows at h
    cases hrow : candidateFromRow J row with
    | error e =>
      rw [hrow] at h
      cases h
    | ok candidate =>
      cases hrows : candidatesFromRows J rows with
      | error failure =>
        rw [hrow, hrows] at h
        cases h
      | ok rest =>
        rw [hrow, hrows] at h
        obtain rfl := Except.ok.inj h
        exact .cons hrow (candidatesFromRows_eq_ok hrows)

theorem candidatesFromRows_eq_error : ∀ {rows : List CandidateRow} {e : MatchPublisherError},
    candidatesFromRows J rows = .error (row, e) → row ∈ rows ∧ candidateFromRow J row = .error e
  | [], _, h => by cases h
  | first :: rows, e, h => by
    unfold candidatesFromRows at h
    cases hrow : candidateFromRow J first with
    | error e' =>
      rw [hrow] at h
      obtain ⟨rfl, rfl⟩ := Prod.mk.inj (Except.error.inj h)
      exact ⟨List.mem_cons_self, hrow⟩
    | ok candidate =>
      cases hrows : candidatesFromRows J rows with
      | error failure =>
        rw [hrow, hrows] at h
        obtain rfl := Except.error.inj h
        obtain ⟨hmem, herror⟩ := candidatesFromRows_eq_error hrows
        exact ⟨List.mem_cons_of_mem _ hmem, herror⟩
      | ok rest =>
        rw [hrow, hrows] at h
        cases h

end Rows

/-! ### When planning fails -/

section Failures

variable {J : JsRuntime} {sha256Hex : String → String} {call : FreezeCall}
  {candidates : List MatchPublicationCandidate}

theorem assertCandidates_completed {now : ℤ} :
    ∀ {roundIds requestIds : List String} {cs : List MatchPublicationCandidate},
      assertCandidates J now roundIds requestIds cs = .ok () →
        ∀ c ∈ cs, J.dateParse c.completedAt ≤ now
  | _, _, [], _, c, hc => absurd hc List.not_mem_nil
  | _, _, first :: cs, h, c, hc => by
    simp only [assertCandidates, bind_eq_ok, exists_unit, require_eq_ok] at h
    obtain ⟨⟨-, hnow, -⟩, -, hrest⟩ := h
    rcases List.mem_cons.mp hc with rfl | hc
    · exact hnow
    · exact assertCandidates_completed hrest c hc

theorem completed_of_planned {now : ℤ} {policy : MatchBatchPolicy} {ids : DrawnIds}
    {result : Option FrozenMatchBatch}
    (h : planMatchBatch J sha256Hex candidates now policy ids = .ok result) :
    ∀ c ∈ candidates, J.dateParse c.completedAt ≤ now := by
  intro c hc
  have hin : c ∈ inOrder J candidates := mem_inOrder.mpr hc
  unfold inOrder at hin
  simp only [planMatchBatch, bind_eq_ok, exists_unit] at h
  obtain ⟨-, h⟩ := h
  cases hordered : candidates.insertionSort (compareCandidates J) with
  | nil =>
    rw [hordered] at hin
    exact absurd hin List.not_mem_nil
  | cons oldest later =>
    rw [hordered] at h hin
    simp only [bind_eq_ok, exists_unit] at h
    exact assertCandidates_completed h.1 c hin

theorem exists_row_of_mem {rows : List CandidateRow}
    (h : List.Forall₂ (fun row candidate => candidateFromRow J row = .ok candidate) rows candidates)
    {c : MatchPublicationCandidate} (hc : c ∈ candidates) :
    ∃ row ∈ rows, candidateFromRow J row = .ok c := by
  induction h with
  | nil => exact absurd hc List.not_mem_nil
  | cons hrow _ ih =>
    rcases List.mem_cons.mp hc with rfl | hc
    · exact ⟨_, List.mem_cons_self, hrow⟩
    · obtain ⟨row, hmem, hrow⟩ := ih hc
      exact ⟨row, List.mem_cons_of_mem _ hmem, hrow⟩

theorem exists_candidate_of_mem {rows : List CandidateRow}
    (h : List.Forall₂ (fun row candidate => candidateFromRow J row = .ok candidate) rows candidates)
    {row : CandidateRow} (hrow : row ∈ rows) : ∃ c ∈ candidates, candidateFromRow J row = .ok c := by
  induction h with
  | nil => exact absurd hrow List.not_mem_nil
  | cons hok _ ih =>
    rcases List.mem_cons.mp hrow with rfl | hrow
    · exact ⟨_, List.mem_cons_self, hok⟩
    · obtain ⟨c, hmem, hok⟩ := ih hrow
      exact ⟨c, List.mem_cons_of_mem _ hmem, hok⟩

theorem map_of_rows {rows : List CandidateRow} {f : CandidateRow → String}
    {g : MatchPublicationCandidate → String}
    (hfg : ∀ row c, candidateFromRow J row = .ok c → g c = f row)
    (h : List.Forall₂ (fun row candidate => candidateFromRow J row = .ok candidate) rows candidates) :
    candidates.map g = rows.map f := by
  induction h with
  | nil => rfl
  | cons hrow _ ih => rw [List.map_cons, List.map_cons, ih, hfg _ _ hrow]

theorem Configured.plannable (h : Configured J call)
    (hread : candidatesFromRows J call.rows = .ok candidates)
    (hcompleted : ∀ row ∈ call.rows, ¬ InFuture J call row) :
    Plannable J call.now call.policy call.ids candidates := by
  have hrows := candidatesFromRows_eq_ok hread
  refine ⟨h.validPolicy, h.publisher, h.eventId, h.batchId, h.outboxId, fun c hc => ?_, ?_, ?_,
    fun c hc => ?_⟩
  · obtain ⟨row, -, hrow⟩ := exists_row_of_mem hrows hc
    exact (candidateFromRow_eq_ok hrow).1
  · rw [map_of_rows (fun row c hrow => (candidateFromRow_eq_ok hrow).2.2.1) hrows]
    exact h.rounds
  · rw [map_of_rows (fun row c hrow => (candidateFromRow_eq_ok hrow).2.1) hrows]
    exact h.requests
  · obtain ⟨row, hmem, hrow⟩ := exists_row_of_mem hrows hc
    rw [(candidateFromRow_eq_ok hrow).2.2.2]
    exact not_lt.mp (hcompleted row hmem)

theorem batchPeriodEnd_mem (h : ∀ c ∈ candidates, J.dateParse c.completedAt ≤ call.now) :
    batchPeriodEnd J call.now call.policy candidates ∈ [call.now, call.now + 1] := by
  unfold batchPeriodEnd
  cases hordered : inOrder J candidates with
  | nil => exact List.mem_cons_self
  | cons oldest later =>
    have hlast : ((oldest :: later).take call.policy.maximumResults).getLastD oldest ∈ candidates := by
      rw [← mem_inOrder (J := J), hordered]
      cases htake : (oldest :: later).take call.policy.maximumResults with
      | nil => exact List.mem_cons_self
      | cons c cs =>
        have hmem : (c :: cs).getLastD oldest ∈ (oldest :: later).take call.policy.maximumResults := by
          rw [htake, List.getLastD_cons]
          exact List.getLastD_mem_cons
        exact List.mem_of_mem_take hmem
    have hle := h _ hlast
    show periodEnd J call.now call.policy oldest (oldest :: later) ∈ _
    unfold periodEnd
    dsimp only
    by_cases hlt : J.dateParse
        (((oldest :: later).take call.policy.maximumResults).getLastD oldest).completedAt < call.now
    · rw [if_pos hlt]
      exact List.mem_cons_self
    · rw [if_neg hlt]
      have heq := le_antisymm hle (not_lt.mp hlt)
      rw [heq]
      exact List.mem_cons_of_mem _ (List.mem_singleton_self _)

/-- **When no round is in the future**, the planner fails exactly when its first candidate alone is too
large. -/
theorem plan_error_iff (h : Configured J call)
    (hread : candidatesFromRows J call.rows = .ok candidates)
    (hcompleted : ∀ row ∈ call.rows, ¬ InFuture J call row) :
    (∃ e, planMatchBatch J sha256Hex candidates call.now call.policy call.ids = .error e) ↔
      ∃ first, (inOrder J candidates).head? = some first ∧ AloneTooLarge J call candidates first := by
  have hplannable := h.plannable hread hcompleted
  have hend := batchPeriodEnd_mem hplannable.completed
  have hwrites : WritesDates J call.now call.policy candidates := ⟨h.datetime, h.reads _ hend⟩
  have hyears : InYears J call.now call.policy candidates := by
    intro ms hms
    rcases List.mem_cons.mp hms with rfl | hms
    · exact h.years _ List.mem_cons_self
    · rw [List.mem_singleton.mp hms]
      exact h.years _ hend
  cases hordered : inOrder J candidates with
  | nil =>
    rw [planMatchBatch_nil sha256Hex hplannable hordered]
    exact ⟨fun ⟨e, he⟩ => (by cases he), fun ⟨c, hc, _⟩ => (by cases hc)⟩
  | cons oldest later =>
    obtain ⟨more, left, hsplit, hnone, hsome⟩ :=
      planMatchBatch_spec sha256Hex hplannable hwrites hyears hordered
    have halone : (∃ first, (oldest :: later).head? = some first ∧
        AloneTooLarge J call candidates first) ↔ call.policy.maximumPayloadBytes <
          payloadBytes (plannedEvent J call.now call.policy call.ids oldest (oldest :: later)
            [oldest]) := by
      simp only [List.head?_cons, Option.some.injEq, exists_eq_left', AloneTooLarge,
        batchEvent_eq hordered]
    rw [halone]
    by_cases hmore : more = []
    · obtain ⟨hover, e, he, -⟩ := hnone hmore
      exact ⟨fun _ => hover, fun _ => ⟨e, he⟩⟩
    · obtain ⟨hbytes, -, hplan⟩ := hsome hmore
      rw [hplan]
      refine ⟨fun ⟨e, he⟩ => (by cases he), fun hover => ?_⟩
      have hfits : payloadBytes (plannedEvent J call.now call.policy call.ids oldest (oldest :: later)
          [oldest]) ≤ payloadBytes (plannedEvent J call.now call.policy call.ids oldest
            (oldest :: later) more) := payloadBytes_head_le hsplit hmore hplannable.limits.2.1
      omega

theorem head_of_rows (hread : candidatesFromRows J call.rows = .ok candidates)
    {c : MatchPublicationCandidate} (hc : candidates.head? = some c) :
    ∃ row, call.rows.head? = some row ∧ candidateFromRow J row = .ok c := by
  have hrows := candidatesFromRows_eq_ok hread
  generalize call.rows = rows at hrows ⊢
  cases hrows with
  | nil => cases hc
  | cons hrow _ =>
    obtain rfl := Option.some.inj hc
    exact ⟨_, rfl, hrow⟩

theorem head_of_candidates (hread : candidatesFromRows J call.rows = .ok candidates)
    {row : CandidateRow} (hrow : call.rows.head? = some row) :
    ∃ c, candidates.head? = some c ∧ candidateFromRow J row = .ok c := by
  have hrows := candidatesFromRows_eq_ok hread
  generalize call.rows = rows at hrows hrow
  cases hrows with
  | nil => cases hrow
  | cons hread' _ =>
    obtain rfl := Option.some.inj hrow
    exact ⟨_, rfl, hread'⟩

theorem planNextBatch_error (hread : candidatesFromRows J call.rows = .ok candidates)
    {e : MatchPublisherError}
    (hplan : planMatchBatch J sha256Hex candidates call.now call.policy call.ids = .error e) :
    planNextBatch J sha256Hex call = .error (candidates.head?.map (·.publicationRequestId), e) := by
  unfold planNextBatch
  rw [hread]
  dsimp only
  rw [hplan]

theorem Configured.eq_of_request (h : Configured J call) {a b : CandidateRow} (ha : a ∈ call.rows)
    (hb : b ∈ call.rows) (heq : a.publicationRequestId = b.publicationRequestId) : a = b :=
  List.inj_on_of_nodup_map h.requests ha hb heq

/-- **Deferring a request** leaves every other request as it was. -/
theorem mem_request_of_deferred {code : String} {now retryAt : Timestamp} {id : Uuid}
    {p p' : PublicationTables} (h : deferInvalidRequest id code now retryAt p = .ok p')
    {other : RequestRow} (hother : other.id ≠ id) : other ∈ p'.request ↔ other ∈ p.request := by
  simp only [deferInvalidRequest, bind_eq_ok, updateRequests_eq_ok, commit_eq_ok] at h
  obtain ⟨tx, ⟨-, rfl⟩, -, rfl⟩ := h
  constructor
  · intro hmem
    rcases Table.mem_modify_cases hmem with ⟨row, -, hid, rfl⟩ | ⟨hmem, -⟩
    · exact absurd hid hother
    · exact hmem
  · intro hmem
    exact Table.mem_modify_of_not hmem hother

theorem mem_request_of_failed {request : String} {e : MatchPublisherError}
    (hfailed : planNextBatch J sha256Hex call = .error (some request, e)) {p p' : PublicationTables}
    {result : Except MatchPublisherError (Option FrozenMatchBatch)}
    (h : freezeNextBatch J sha256Hex call p = .ok (result, p')) {other : RequestRow}
    (hother : other.id ≠ uuidOf request) : other ∈ p'.request ↔ other ∈ p.request := by
  unfold freezeNextBatch at h
  rw [hfailed] at h
  simp only [bind_eq_ok, pure_eq_ok] at h
  obtain ⟨tables, hdefer, heq⟩ := h
  obtain ⟨-, rfl⟩ := Prod.mk.inj heq
  exact mem_request_of_deferred hdefer hother

theorem not_invalid (hread : candidatesFromRows J call.rows = .ok candidates) {row : CandidateRow}
    (hrow : row ∈ call.rows) {e : MatchPublisherError} : candidateFromRow J row ≠ .error e := by
  obtain ⟨c, -, hc⟩ := exists_candidate_of_mem (candidatesFromRows_eq_ok hread) hrow
  rw [hc]
  intro h
  cases h

theorem exists_error_of_future {row : CandidateRow}
    (hread : candidatesFromRows J call.rows = .ok candidates) (hrow : row ∈ call.rows)
    (hfuture : InFuture J call row) :
    ∃ e, planMatchBatch J sha256Hex candidates call.now call.policy call.ids = .error e := by
  obtain ⟨c, hmem, hc⟩ := exists_candidate_of_mem (candidatesFromRows_eq_ok hread) hrow
  cases hplan : planMatchBatch J sha256Hex candidates call.now call.policy call.ids with
  | error e => exact ⟨e, rfl⟩
  | ok result =>
    have hle := completed_of_planned hplan c hmem
    rw [(candidateFromRow_eq_ok hc).2.2.2] at hle
    exact absurd hle (not_le_of_gt hfuture)

theorem BlamesOffender.head (hblames : BlamesOffender J sha256Hex call) (h : Configured J call)
    (hread : candidatesFromRows J call.rows = .ok candidates) {e : MatchPublisherError}
    (hplan : planMatchBatch J sha256Hex candidates call.now call.policy call.ids = .error e) :
    ∃ row c, call.rows.head? = some row ∧ candidates.head? = some c ∧
      candidateFromRow J row = .ok c ∧ row ∈ call.rows ∧ FailsBecauseOf J call row := by
  obtain ⟨blamed, hmem, hrequest, hfails, -⟩ := hblames _ e (planNextBatch_error hread hplan)
  obtain ⟨c, hc, hid⟩ := Option.map_eq_some_iff.mp hrequest
  obtain ⟨row, hhead, hrow⟩ := head_of_rows hread hc
  have hfirst : row ∈ call.rows := List.mem_of_mem_head? hhead
  have hsame : row = blamed :=
    h.eq_of_request hfirst hmem ((candidateFromRow_eq_ok hrow).2.1.symm.trans hid)
  exact ⟨row, c, hhead, hc, hrow, hfirst, hsame ▸ hfails⟩

/-- **The request at fault is the one deferred** exactly when it comes first in the database. -/
theorem blamesOffender_iff (J : JsRuntime) (sha256Hex : String → String) (call : FreezeCall)
    (h : Configured J call) : BlamesOffender J sha256Hex call ↔ FirstAtFault J call := by
  constructor
  · intro hblames candidates hread
    constructor
    · rintro ⟨late, hlate, hfuture⟩
      obtain ⟨e, hplan⟩ := exists_error_of_future hread hlate hfuture
      obtain ⟨row, c, hhead, -, -, hmem, hfails⟩ := hblames.head h hread hplan
      refine ⟨row, hhead, ?_⟩
      cases hfails with
      | invalid herror => exact absurd herror (not_invalid hread hmem)
      | future _ hrow => exact hrow
      | tooLarge _ hcompleted _ _ _ => exact absurd hfuture (hcompleted late hlate)
    · intro hcompleted first hfirst hlarge
      obtain ⟨e, hplan⟩ := (plan_error_iff h hread hcompleted).mpr ⟨first, hfirst, hlarge⟩
      obtain ⟨row, c, -, hc, hrow, hmem, hfails⟩ := hblames.head h hread hplan
      cases hfails with
      | invalid herror => exact absurd herror (not_invalid hread hmem)
      | future _ hfuture => exact absurd hfuture (hcompleted row hmem)
      | tooLarge hagain _ hcandidate hfirstAgain _ =>
        obtain rfl := Except.ok.inj (hread.symm.trans hagain)
        obtain rfl := Except.ok.inj (hrow.symm.trans hcandidate)
        rw [hc, ← hfirstAgain]
        exact hfirst
  · intro hfirst request e hfailed
    cases hread : candidatesFromRows J call.rows with
    | error failure =>
      obtain ⟨row, e'⟩ := failure
      have hplan : planNextBatch J sha256Hex call = .error (some row.publicationRequestId, e') := by
        unfold planNextBatch
        rw [hread]
      obtain ⟨rfl, rfl⟩ := Prod.mk.inj (Except.error.inj (hplan.symm.trans hfailed))
      obtain ⟨hmem, herror⟩ := candidatesFromRows_eq_error hread
      exact ⟨row, hmem, rfl, .invalid herror, fun p result p' hfreeze other hother =>
        mem_request_of_failed hplan hfreeze hother⟩
    | ok candidates =>
      obtain ⟨hfuture, hlarge⟩ := hfirst candidates hread
      cases hplan : planMatchBatch J sha256Hex candidates call.now call.policy call.ids with
      | ok result =>
        unfold planNextBatch at hfailed
        rw [hread] at hfailed
        dsimp only at hfailed
        rw [hplan] at hfailed
        cases hfailed
      | error e' =>
        have hdeferred := planNextBatch_error hread hplan
        obtain ⟨rfl, rfl⟩ := Prod.mk.inj (Except.error.inj (hdeferred.symm.trans hfailed))
        -- It suffices to find the first row at fault.
        have hblame : ∀ row c, candidates.head? = some c → row ∈ call.rows →
            candidateFromRow J row = .ok c → FailsBecauseOf J call row →
              ∃ row ∈ call.rows, candidates.head?.map (·.publicationRequestId) =
                some row.publicationRequestId ∧ FailsBecauseOf J call row ∧
                ∀ p result p', freezeNextBatch J sha256Hex call p = .ok (result, p') →
                  ∀ other : RequestRow, other.id ≠ uuidOf row.publicationRequestId →
                    (other ∈ p'.request ↔ other ∈ p.request) := by
          intro row c hc hmem hrow hfails
          have hid : candidates.head?.map (·.publicationRequestId) = some row.publicationRequestId := by
            rw [hc, Option.map_some, (candidateFromRow_eq_ok hrow).2.1]
          rw [hid] at hdeferred
          exact ⟨row, hmem, hid, hfails, fun p result p' hfreeze other hother =>
            mem_request_of_failed hdeferred hfreeze hother⟩
        by_cases hlate : ∃ row ∈ call.rows, InFuture J call row
        · obtain ⟨row, hhead, hrow⟩ := hfuture hlate
          have hmem : row ∈ call.rows := List.mem_of_mem_head? hhead
          obtain ⟨c, hc, hread'⟩ := head_of_candidates hread hhead
          exact hblame row c hc hmem hread' (.future hread hrow)
        · have hcompleted : ∀ row ∈ call.rows, ¬ InFuture J call row :=
            fun row hmem hrow => hlate ⟨row, hmem, hrow⟩
          obtain ⟨first, hinOrder, hover⟩ := (plan_error_iff h hread hcompleted).mp ⟨_, hplan⟩
          have hc := hlarge hcompleted first hinOrder hover
          obtain ⟨row, hhead, hrow⟩ := head_of_rows hread hc
          have hmem : row ∈ call.rows := List.mem_of_mem_head? hhead
          exact hblame row first hc hmem hrow (.tooLarge hread hcompleted hrow hinOrder hover)

end Failures

/-! ### A round in the future -/

/-- A runtime that reads the instants of the two rows and of the clock. -/
def lateJs : JsRuntime :=
  { isoJs with
    dateParse := fun text => (([1000, 5000, 5001, 9000] : List ℤ).find? fun ms =>
      toISOString ms == text).getD 0 }

/-- The row of a round of one hider. -/
def soloRow (requestId roundId : String) (completedAt : ℤ) : CandidateRow where
  publicationRequestId := requestId
  resultRevisionId := "01890f3e-0000-7000-8000-0000000000e1"
  roundId := roundId
  completedAt := completedAt
  columns := twoPlayerColumns
  resultSchemaVersion := "match-result-1"
  scoringRuleVersion := "scoring-1"
  winningSide := "none"
  winnerAccounts := .array []
  participants := .array [.object [
    ("account", .string "hider"), ("initial_role", .string "hider"), ("final_role", .string "hider"),
    ("outcome", .string "survived"), ("score", .string "1.0000")]]
  discoveries := .array []
  survivors := .array [.string "hider"]
  likes := .array []
  resultSha256 := "44136fa355b3678a1146ad16f7e8649e94fb4fc21fe77e8310c060f61caaff8a"

/-- A round that is completed, -/
def pastRow : CandidateRow :=
  soloRow "01890f3e-0000-7000-8000-0000000000d1" "01890f3e-0000-7000-8000-0000000000b1" 1000

/-- and one that ends four seconds after the clock. -/
def lateRow : CandidateRow :=
  soloRow "01890f3e-0000-7000-8000-0000000000d2" "01890f3e-0000-7000-8000-0000000000b2" 9000

/-- A call at five seconds with these rows. -/
def callWith (rows : List CandidateRow) : FreezeCall :=
  ⟨5000, examplePolicy, rows, exampleIds, fun position => ⟨position⟩⟩

theorem configured_callWith {rows : List CandidateRow}
    (hrequests : (rows.map (·.publicationRequestId)).Nodup) (hrounds : (rows.map (·.roundId)).Nodup) :
    Configured lateJs (callWith rows) where
  validPolicy := plannable_example.validPolicy
  publisher := plannable_example.publisher
  eventId := plannable_example.eventId
  batchId := plannable_example.batchId
  outboxId := plannable_example.outboxId
  requests := hrequests
  rounds := hrounds
  datetime := datetime_isoJs
  years := by
    show ∀ ms ∈ [(5000 : ℤ), 5000 + 1], 0 ≤ isoYear ms ∧ isoYear ms ≤ 9999
    decide +kernel
  reads := by
    show ∀ ms ∈ [(5000 : ℤ), 5000 + 1], lateJs.dateParse (toISOString ms) = ms
    decide +kernel

/-- What a failed planning would defer. -/
def deferredRequest (call : FreezeCall) : Option String :=
  match planNextBatch lateJs id call with
  | .error (request, _) => request
  | .ok _ => none

/-- A round in the future that is alone is the one deferred. -/
theorem blamesOffender_late :
    BlamesOffender lateJs id (callWith [lateRow]) ∧
      deferredRequest (callWith [lateRow]) = some lateRow.publicationRequestId := by
  have hlate : InFuture lateJs (callWith [lateRow]) lateRow := by
    unfold InFuture
    decide +kernel
  refine ⟨(blamesOffender_iff lateJs id (callWith [lateRow])
    (configured_callWith (by decide) (by decide))).mpr fun candidates _ => ⟨fun _ => ?_, ?_⟩, ?_⟩
  · exact ⟨lateRow, rfl, hlate⟩
  · exact fun hcompleted => absurd hlate (hcompleted lateRow (List.mem_singleton_self _))
  · decide +kernel

/-- **A completed round is deferred in place of the later one in the future.** -/
theorem not_blamesOffender_past :
    ¬ ∀ call : FreezeCall, Configured lateJs call → BlamesOffender lateJs id call := by
  intro hall
  have hconfigured : Configured lateJs (callWith [pastRow, lateRow]) :=
    configured_callWith (by decide) (by decide)
  have hlate : InFuture lateJs (callWith [pastRow, lateRow]) lateRow := by
    unfold InFuture
    decide +kernel
  have hpast : ¬ InFuture lateJs (callWith [pastRow, lateRow]) pastRow := by
    unfold InFuture
    decide +kernel
  have hvalid : (candidateFromRow lateJs pastRow).toOption.isSome = true := by decide +kernel
  have hdeferred : deferredRequest (callWith [pastRow, lateRow]) = some pastRow.publicationRequestId := by
    decide +kernel
  cases hplan : planNextBatch lateJs id (callWith [pastRow, lateRow]) with
  | ok frozen =>
    rw [deferredRequest, hplan] at hdeferred
    cases hdeferred
  | error failure =>
    obtain ⟨request, e⟩ := failure
    rw [deferredRequest, hplan] at hdeferred
    obtain ⟨row, hmem, hrequest, hfails, -⟩ := hall _ hconfigured request e hplan
    have hsame : row = pastRow :=
      hconfigured.eq_of_request hmem List.mem_cons_self
        (Option.some.inj (hrequest.symm.trans hdeferred))
    subst hsame
    cases hfails with
    | invalid herror =>
      rw [herror] at hvalid
      cases hvalid
    | future _ hfuture => exact hpast hfuture
    | tooLarge _ hcompleted _ _ _ =>
      exact hcompleted lateRow (List.mem_cons_of_mem _ (List.mem_singleton_self _)) hlate

end HiveChameleon.Publisher.PublicMatch
