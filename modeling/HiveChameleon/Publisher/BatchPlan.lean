import HiveChameleon.Publisher.BatchBuilder
import HiveChameleon.Publisher.Expressible

/-!
# Publisher.BatchPlan — which batch the planner builds

The loop of `planMatchBatch` keeps the longest prefix of its candidates that fits, as the size of a
batch grows with every result; every prefix passes the schema, as the period is fixed around all the
candidates that may be selected.  The texts of the clock and of the end of the period are timestamps of
the schema when their years have four digits.
-/

namespace HiveChameleon.Publisher.PublicMatch

open Gateway Gateway.EventSchema Gateway.Schema Lib

/-! ### The selection loop -/

section Selection

variable {J : JsRuntime} {limit : ℕ} {event : List MatchPublicationCandidate → Json}

/-- The variables of the loop when these candidates are selected. -/
def selectionOf (event : List MatchPublicationCandidate → Json) :
    List MatchPublicationCandidate → Selection
  | [] => ⟨[], "", none, false⟩
  | c :: cs => ⟨c :: cs, canonicalJson (event (c :: cs)), some (event (c :: cs)), false⟩

theorem selectionOf_of_ne_nil {selected : List MatchPublicationCandidate} (h : selected ≠ []) :
    selectionOf event selected =
      ⟨selected, canonicalJson (event selected), some (event selected), false⟩ := by
  cases selected with
  | nil => exact absurd rfl h
  | cons c cs => rfl

theorem selected_selectionOf (selected : List MatchPublicationCandidate) :
    (selectionOf event selected).selected = selected := by
  cases selected <;> rfl

/-- What the gateway makes of the event of these candidates. -/
def Serializes (J : JsRuntime) (event : List MatchPublicationCandidate → Json)
    (selected : List MatchPublicationCandidate) : Prop :=
  serializeHiveChameleonEvent J (event selected) =
    if payloadBytes (event selected) ≤ hiveChameleonMaxPayloadBytes then
      .ok (canonicalJson (event selected))
    else .error ⟨.payloadTooLarge, "Hive Chameleon payload exceeds 6 KiB"⟩

/-- How the loop ends after it has added `more`, with `left` not looked at or refused. -/
structure Selects (J : JsRuntime) (limit : ℕ) (event : List MatchPublicationCandidate → Json)
    (selected rest more left : List MatchPublicationCandidate) : Prop where
  split : rest = more ++ left
  fits : more ≠ [] → payloadBytes (event (selected ++ more)) ≤ limit
  stops : ∀ c cs, left = c :: cs → limit < payloadBytes (event (selected ++ more ++ [c]))
  some_selected : selected ++ more ≠ [] →
    selectCandidates J limit event (selectionOf event selected) rest =
      .ok { selectionOf event (selected ++ more) with payloadLimitReached := !left.isEmpty }
  none_selected : selected ++ more = [] → rest ≠ [] → ∃ e,
    selectCandidates J limit event (selectionOf event selected) rest = .error e ∧
      e.code = "payload_too_large"

theorem selectCandidates_refuses {selected rest : List MatchPublicationCandidate}
    {c : MatchPublicationCandidate} (hserialize : Serializes J event (selected ++ [c]))
    (hsize : limit < payloadBytes (event (selected ++ [c]))) :
    Selects J limit event selected (c :: rest) [] (c :: rest) := by
  have hround : ∃ e : MatchPublisherError, e.code = "payload_too_large" ∧
      selectCandidates J limit event (selectionOf event selected) (c :: rest) =
        if selected.length = 0 then .error e
        else .ok { selectionOf event selected with payloadLimitReached := true } := by
    unfold Serializes at hserialize
    unfold selectCandidates
    dsimp only
    rw [selected_selectionOf, hserialize]
    by_cases hmax : payloadBytes (event (selected ++ [c])) ≤ hiveChameleonMaxPayloadBytes
    · rw [if_pos hmax]
      dsimp only
      have hover : limit < (canonicalJson (event (selected ++ [c]))).utf8ByteSize := hsize
      rw [if_pos hover]
      exact ⟨_, rfl, rfl⟩
    · rw [if_neg hmax]
      exact ⟨_, rfl, rfl⟩
  obtain ⟨e, hcode, hround⟩ := hround
  refine ⟨rfl, fun h => absurd rfl h, fun c' cs hc => ?_, fun hsome => ?_, fun hnone _ => ?_⟩
  · obtain ⟨rfl, -⟩ := List.cons.inj hc
    rwa [List.append_nil]
  · rw [List.append_nil] at hsome ⊢
    rw [hround, if_neg (fun h => hsome (List.length_eq_zero_iff.mp h))]
    rfl
  · rw [List.append_nil] at hnone
    exact ⟨e, by rw [hround, if_pos (List.length_eq_zero_iff.mpr hnone)], hcode⟩

theorem selectCandidates_adds {selected rest : List MatchPublicationCandidate}
    {c : MatchPublicationCandidate} (hlimit : limit ≤ hiveChameleonMaxPayloadBytes)
    (hserialize : Serializes J event (selected ++ [c]))
    (hsize : payloadBytes (event (selected ++ [c])) ≤ limit) :
    selectCandidates J limit event (selectionOf event selected) (c :: rest) =
      selectCandidates J limit event (selectionOf event (selected ++ [c])) rest := by
  have hne : selected ++ [c] ≠ [] := List.append_ne_nil_of_right_ne_nil _ (List.cons_ne_nil _ _)
  have hfits : ¬ limit < (canonicalJson (event (selected ++ [c]))).utf8ByteSize := not_lt_of_ge hsize
  unfold Serializes at hserialize
  rw [selectionOf_of_ne_nil hne, selectCandidates, selected_selectionOf, hserialize,
    if_pos (hsize.trans hlimit)]
  dsimp only
  rw [if_neg hfits]

/-- **The loop** adds candidates until one does not fit. -/
theorem selectCandidates_spec (hlimit : limit ≤ hiveChameleonMaxPayloadBytes) :
    ∀ {rest selected : List MatchPublicationCandidate},
      (∀ more, more <+: rest → more ≠ [] → Serializes J event (selected ++ more)) →
        ∃ more left, Selects J limit event selected rest more left
  | [], selected, _ => by
    refine ⟨[], [], rfl, fun h => absurd rfl h, fun c cs hc => (by cases hc), fun _ => ?_,
      fun _ h => absurd rfl h⟩
    rw [List.append_nil, selectCandidates]
    cases selected <;> rfl
  | c :: rest, selected, hserialize => by
    have hfirst : Serializes J event (selected ++ [c]) :=
      hserialize [c] ⟨rest, rfl⟩ (List.cons_ne_nil _ _)
    by_cases hsize : payloadBytes (event (selected ++ [c])) ≤ limit
    · have hrest : ∀ more, more <+: rest → more ≠ [] → Serializes J event (selected ++ [c] ++ more) := by
        intro more hmore _
        rw [List.append_assoc]
        exact hserialize (c :: more) ((List.prefix_cons_inj c).mpr hmore) (List.cons_ne_nil _ _)
      obtain ⟨more, left, hselects⟩ := selectCandidates_spec hlimit hrest
      have hassoc : ∀ cs, selected ++ [c] ++ cs = selected ++ c :: cs := fun cs => by simp
      have hround : selectCandidates J limit event (selectionOf event selected) (c :: rest) =
          selectCandidates J limit event (selectionOf event (selected ++ [c])) rest :=
        selectCandidates_adds hlimit hfirst hsize
      refine ⟨c :: more, left, ?_, fun _ => ?_, fun c' cs hc => ?_, fun hsome => ?_, fun hnone => ?_⟩
      · rw [hselects.split, List.cons_append]
      · by_cases hmore : more = []
        · subst hmore
          exact hsize
        · rw [← hassoc]
          exact hselects.fits hmore
      · rw [← hassoc]
        exact hselects.stops c' cs hc
      · rw [← hassoc] at hsome
        rw [hround, ← hassoc more]
        exact hselects.some_selected hsome
      · exact absurd hnone (List.append_ne_nil_of_right_ne_nil _ (List.cons_ne_nil _ _))
    · exact ⟨[], c :: rest, selectCandidates_refuses hfirst (not_le.mp hsize)⟩

end Selection

/-! ### The order of the candidates -/

section Order

variable {J : JsRuntime} {candidates candidates' : List MatchPublicationCandidate}

instance : Std.Total (compareCandidates J) where
  total a b := by
    rcases lt_trichotomy (J.dateParse a.completedAt) (J.dateParse b.completedAt) with h | h | h
    · exact .inl (.inl h)
    · rcases le_total a.roundId b.roundId with hle | hle
      · exact .inl (.inr ⟨h, hle⟩)
      · exact .inr (.inr ⟨h.symm, hle⟩)
    · exact .inr (.inl h)

instance : IsTrans MatchPublicationCandidate (compareCandidates J) where
  trans a b c := by
    rintro (hab | ⟨hab, hab'⟩) (hbc | ⟨hbc, hbc'⟩)
    · exact .inl (hab.trans hbc)
    · exact .inl (hbc ▸ hab)
    · exact .inl (hab ▸ hbc)
    · exact .inr ⟨hab.trans hbc, hab'.trans hbc'⟩

/-- The candidates as the planner orders them. -/
def inOrder (J : JsRuntime) (candidates : List MatchPublicationCandidate) :
    List MatchPublicationCandidate :=
  candidates.insertionSort (compareCandidates J)

theorem perm_inOrder : (inOrder J candidates).Perm candidates := List.perm_insertionSort _ _

theorem mem_inOrder {c : MatchPublicationCandidate} : c ∈ inOrder J candidates ↔ c ∈ candidates :=
  perm_inOrder.mem_iff

theorem pairwise_inOrder : (inOrder J candidates).Pairwise (compareCandidates J) :=
  List.pairwise_insertionSort _ _

theorem dateParse_le_of_compare {a b : MatchPublicationCandidate} (h : compareCandidates J a b) :
    J.dateParse a.completedAt ≤ J.dateParse b.completedAt := by
  rcases h with h | ⟨h, -⟩
  · exact h.le
  · exact h.le

theorem eq_of_roundId (hrounds : (candidates.map (·.roundId)).Nodup)
    {a b : MatchPublicationCandidate} (ha : a ∈ candidates) (hb : b ∈ candidates)
    (h : a.roundId = b.roundId) : a = b :=
  List.inj_on_of_nodup_map hrounds ha hb h

/-- **The order does not depend on the input's** when the rounds differ. -/
theorem inOrder_congr (hrounds : (candidates.map (·.roundId)).Nodup)
    (hperm : candidates'.Perm candidates) : inOrder J candidates' = inOrder J candidates := by
  refine List.Perm.eq_of_pairwise (fun a b ha hb hab hba => ?_) pairwise_inOrder pairwise_inOrder
    (perm_inOrder.trans (hperm.trans perm_inOrder.symm))
  have htime := le_antisymm (dateParse_le_of_compare hab) (dateParse_le_of_compare hba)
  have hround : a.roundId = b.roundId := by
    rcases hab with h | ⟨-, hle⟩
    · exact absurd htime (ne_of_lt h)
    rcases hba with h | ⟨-, hge⟩
    · exact absurd htime.symm (ne_of_lt h)
    exact le_antisymm hle hge
  exact eq_of_roundId hrounds (hperm.mem_iff.mp (mem_inOrder.mp ha)) (mem_inOrder.mp hb) hround

end Order

/-! ### What may be planned -/

section Planning

/-- A valid policy, valid ids, and valid candidates of different rounds and requests that are completed
by now. -/
structure Plannable (J : JsRuntime) (now : ℤ) (policy : MatchBatchPolicy) (ids : DrawnIds)
    (candidates : List MatchPublicationCandidate) : Prop where
  validPolicy : validatePolicy policy = .ok ()
  publisher : Gateway.hiveAccountSchema policy.publisherAccount = true
  eventId : isUuidV7 ids.eventId = true
  batchId : isUuidV7 ids.batchId = true
  outboxId : isUuidV7 ids.outboxId = true
  valid : ∀ c ∈ candidates, ValidCandidate J c
  rounds : (candidates.map (·.roundId)).Nodup
  requests : (candidates.map (·.publicationRequestId)).Nodup
  completed : ∀ c ∈ candidates, J.dateParse c.completedAt ≤ now

/-- The end of the period of the batch. -/
def batchPeriodEnd (J : JsRuntime) (now : ℤ) (policy : MatchBatchPolicy)
    (candidates : List MatchPublicationCandidate) : ℤ :=
  match inOrder J candidates with
  | [] => now
  | oldest :: later => periodEnd J now policy oldest (oldest :: later)

/-- The event of some of the candidates. -/
def batchEvent (J : JsRuntime) (now : ℤ) (policy : MatchBatchPolicy) (ids : DrawnIds)
    (candidates selected : List MatchPublicationCandidate) : Json :=
  match inOrder J candidates with
  | [] => .null
  | oldest :: later => plannedEvent J now policy ids oldest (oldest :: later) selected

/-- The schema library accepts the instants of the years 0 to 9999 as `toISOString` writes them, and the
runtime reads the end of the period back. -/
structure WritesDates (J : JsRuntime) (now : ℤ) (policy : MatchBatchPolicy)
    (candidates : List MatchPublicationCandidate) : Prop where
  datetime : ∀ ms, J.datetime (toISOString ms) = true ↔ 0 ≤ isoYear ms ∧ isoYear ms ≤ 9999
  reads : J.dateParse (toISOString (batchPeriodEnd J now policy candidates)) =
    batchPeriodEnd J now policy candidates

/-- The clock and the end of the period lie in the years of a timestamp of four digits. -/
def InYears (J : JsRuntime) (now : ℤ) (policy : MatchBatchPolicy)
    (candidates : List MatchPublicationCandidate) : Prop :=
  ∀ ms ∈ [now, batchPeriodEnd J now policy candidates], 0 ≤ isoYear ms ∧ isoYear ms ≤ 9999

variable {J : JsRuntime} {sha256Hex : String → String} {now : ℤ} {policy : MatchBatchPolicy}
  {ids : DrawnIds} {candidates later : List MatchPublicationCandidate}
  {oldest : MatchPublicationCandidate}

theorem Plannable.limits (h : Plannable J now policy ids candidates) :
    1 ≤ policy.maximumResults ∧ policy.maximumResults ≤ 20 ∧
      policy.maximumPayloadBytes ≤ hiveChameleonMaxPayloadBytes := by
  have hpolicy := h.validPolicy
  rw [validatePolicy, require_eq_ok] at hpolicy
  obtain ⟨-, -, hone, htwenty, -, hmax⟩ := hpolicy
  exact ⟨hone, htwenty, hmax⟩

theorem dateParse_le_last {cs : List MatchPublicationCandidate} (hsorted : cs.Pairwise (compareCandidates J))
    {c : MatchPublicationCandidate} (hc : c ∈ cs) :
    J.dateParse c.completedAt ≤ J.dateParse (cs.getLastD oldest).completedAt := by
  induction cs using List.reverseRecOn with
  | nil => exact absurd hc List.not_mem_nil
  | append_singleton cs last ih =>
    rw [List.getLastD_concat]
    rcases List.mem_append.mp hc with hc | hc
    · obtain ⟨-, -, hlast⟩ := List.pairwise_append.mp hsorted
      exact dateParse_le_of_compare (hlast c hc last (List.mem_singleton_self last))
    · rw [List.mem_singleton.mp hc]

theorem lt_periodEnd {ordered : List MatchPublicationCandidate}
    (hsorted : ordered.Pairwise (compareCandidates J)) {c : MatchPublicationCandidate}
    (hc : c ∈ ordered.take policy.maximumResults) :
    J.dateParse c.completedAt < periodEnd J now policy oldest ordered := by
  have hle : J.dateParse c.completedAt ≤
      J.dateParse ((ordered.take policy.maximumResults).getLastD oldest).completedAt :=
    dateParse_le_last (hsorted.sublist (List.take_sublist _ _)) hc
  unfold periodEnd
  dsimp only
  by_cases hnow :
      J.dateParse ((ordered.take policy.maximumResults).getLastD oldest).completedAt < now
  · rw [if_pos hnow]
    exact lt_of_le_of_lt hle hnow
  · rw [if_neg hnow]
    exact Int.lt_add_one_iff.mpr hle

/-- **Every prefix passes the schema.** -/
theorem Plannable.accepts (h : Plannable J now policy ids candidates)
    (hwrites : WritesDates J now policy candidates) (hyears : InYears J now policy candidates)
    (hordered : inOrder J candidates = oldest :: later) {selected : List MatchPublicationCandidate}
    (hinitial : selected <+: (oldest :: later).take policy.maximumResults) (hne : selected ≠ []) :
    (matchBatchSchema J).Accepts
      (plannedEvent J now policy ids oldest (oldest :: later) selected) := by
  obtain ⟨-, htwenty, -⟩ := h.limits
  have hend : batchPeriodEnd J now policy candidates =
      periodEnd J now policy oldest (oldest :: later) := by
    unfold batchPeriodEnd
    rw [hordered]
  have hsorted : (oldest :: later).Pairwise (compareCandidates J) := hordered ▸ pairwise_inOrder
  have hsublist : selected.Sublist (oldest :: later) :=
    hinitial.sublist.trans (List.take_sublist _ _)
  have hin : ∀ c ∈ oldest :: later, c ∈ candidates := fun c hc =>
    mem_inOrder.mp (hordered ▸ hc)
  have hvalid : ∀ c ∈ selected, ValidCandidate J c := fun c hc =>
    h.valid c (hin c (hsublist.subset hc))
  have hrounds : ((oldest :: later).map (·.roundId)).Nodup := by
    rw [← hordered]
    exact ((perm_inOrder.map _).nodup_iff).mpr h.rounds
  have hfirst : ∀ c ∈ oldest :: later,
      J.dateParse oldest.completedAt ≤ J.dateParse c.completedAt := by
    intro c hc
    rcases List.mem_cons.mp hc with rfl | hc
    · exact le_rfl
    · exact dateParse_le_of_compare ((List.pairwise_cons.mp hsorted).1 c hc)
  have hoccurred : J.datetime (toISOString now) = true :=
    (hwrites.datetime now).mpr (hyears now List.mem_cons_self)
  have hstop : J.datetime (toISOString (periodEnd J now policy oldest (oldest :: later))) = true := by
    rw [← hend]
    exact (hwrites.datetime _).mpr (hyears _ (List.mem_cons_of_mem _ (List.mem_singleton_self _)))
  have hreads := hwrites.reads
  rw [hend] at hreads
  have hlength : 1 ≤ selected.length ∧ selected.length ≤ 20 := by
    refine ⟨List.length_pos_iff.mpr hne, hinitial.length_le.trans ?_⟩
    rw [List.length_take]
    omega
  have hinside : ∀ c ∈ selected, J.dateParse oldest.completedAt ≤ J.dateParse c.completedAt ∧
      J.dateParse c.completedAt <
        J.dateParse (toISOString (periodEnd J now policy oldest (oldest :: later))) := by
    intro c hc
    rw [hreads]
    exact ⟨hfirst c (hsublist.subset hc), lt_periodEnd hsorted (hinitial.subset hc)⟩
  obtain ⟨c, hc⟩ := List.exists_mem_of_ne_nil selected hne
  exact accepts_createEvent h.publisher h.eventId h.batchId hoccurred
    (h.valid oldest (hin oldest List.mem_cons_self)).datetime hstop hlength hvalid
    (matchBatchRules_createEvent hvalid (hsorted.sublist hsublist)
      (hrounds.sublist (hsublist.map _))
      (lt_of_le_of_lt (hinside c hc).1 (hinside c hc).2) hinside)

theorem assertCandidates_ok : ∀ {cs : List MatchPublicationCandidate} {roundIds requestIds : List String},
    (∀ c ∈ cs, ValidCandidate J c ∧ J.dateParse c.completedAt ≤ now) →
    (cs.map (·.roundId)).Nodup → (cs.map (·.publicationRequestId)).Nodup →
    (∀ c ∈ cs, c.roundId ∉ roundIds ∧ c.publicationRequestId ∉ requestIds) →
      assertCandidates J now roundIds requestIds cs = .ok ()
  | [], _, _, _, _, _, _ => rfl
  | c :: cs, roundIds, requestIds, hvalid, hrounds, hrequests, hfresh => by
    obtain ⟨hc, hnow⟩ := hvalid c List.mem_cons_self
    obtain ⟨hround, hrounds⟩ := List.nodup_cons.mp hrounds
    obtain ⟨hrequest, hrequests⟩ := List.nodup_cons.mp hrequests
    simp only [assertCandidates, bind_eq_ok, exists_unit, require_eq_ok]
    refine ⟨⟨hc.datetime, hnow, hc.completedAt, hc.roundId⟩, hfresh c List.mem_cons_self, ?_⟩
    refine assertCandidates_ok (fun c' hc' => hvalid c' (List.mem_cons_of_mem _ hc')) hrounds hrequests
      fun c' hc' => ⟨fun hin => ?_, fun hin => ?_⟩
    · rcases List.mem_cons.mp hin with heq | hin
      · exact hround (List.mem_map.mpr ⟨c', hc', heq⟩)
      · exact (hfresh c' (List.mem_cons_of_mem _ hc')).1 hin
    · rcases List.mem_cons.mp hin with heq | hin
      · exact hrequest (List.mem_map.mpr ⟨c', hc', heq⟩)
      · exact (hfresh c' (List.mem_cons_of_mem _ hc')).2 hin

/-- The batch of a selection. -/
def frozenBatch (sha256Hex : String → String) (ids : DrawnIds) (periodStart periodStop payload : String)
    (event : Json) (selected : List MatchPublicationCandidate) : FrozenMatchBatch where
  outboxId := ids.outboxId
  eventId := ids.eventId
  batchId := ids.batchId
  event := event
  canonicalPayload := payload
  payloadSha256 := sha256Hex payload
  payloadByteCount := payload.utf8ByteSize
  publicationPeriodStart := periodStart
  publicationPeriodEnd := periodStop
  candidates := selected

theorem finishBatch_some {ordered selected : List MatchPublicationCandidate} {payload : String}
    {event : Json} {limit : Bool} (hpayload : payload ≠ "") :
    finishBatch J sha256Hex now policy ids oldest ordered ⟨selected, payload, some event, limit⟩ =
      .ok (if policy.maximumAgeMs ≤ now - J.dateParse oldest.completedAt ∨
          selected.length = policy.maximumResults ∨ limit = true then
        some (frozenBatch sha256Hex ids oldest.completedAt
          (toISOString (periodEnd J now policy oldest ordered)) payload event selected)
      else none) := by
  unfold finishBatch
  dsimp only
  rw [if_neg hpayload]
  by_cases hdue : policy.maximumAgeMs ≤ now - J.dateParse oldest.completedAt ∨
      selected.length = policy.maximumResults ∨ limit = true
  · rw [if_pos hdue, if_pos hdue]
    rfl
  · rw [if_neg hdue, if_neg hdue]

theorem planMatchBatch_nil (sha256Hex : String → String) (h : Plannable J now policy ids candidates)
    (hordered : inOrder J candidates = []) :
    planMatchBatch J sha256Hex candidates now policy ids = .ok none := by
  have hsort : candidates.insertionSort (compareCandidates J) = [] := hordered
  unfold planMatchBatch
  rw [h.validPolicy, hsort]
  rfl

theorem planMatchBatch_cons (sha256Hex : String → String) (h : Plannable J now policy ids candidates)
    (hordered : inOrder J candidates = oldest :: later) :
    planMatchBatch J sha256Hex candidates now policy ids = (do
      let selection ← selectCandidates J policy.maximumPayloadBytes
        (plannedEvent J now policy ids oldest (oldest :: later))
        (selectionOf (plannedEvent J now policy ids oldest (oldest :: later)) [])
        ((oldest :: later).take policy.maximumResults)
      finishBatch J sha256Hex now policy ids oldest (oldest :: later) selection) := by
  have hsort : candidates.insertionSort (compareCandidates J) = oldest :: later := hordered
  have hin : ∀ c ∈ oldest :: later, c ∈ candidates := fun c hc => mem_inOrder.mp (hordered ▸ hc)
  have hperm : (oldest :: later).Perm candidates := hordered ▸ perm_inOrder
  have hassert : assertCandidates J now [] [] (oldest :: later) = .ok () :=
    assertCandidates_ok (fun c hc => ⟨h.valid c (hin c hc), h.completed c (hin c hc)⟩)
      ((hperm.map _).nodup_iff.mpr h.rounds) ((hperm.map _).nodup_iff.mpr h.requests)
      fun c _ => ⟨List.not_mem_nil, List.not_mem_nil⟩
  have hids : ∀ {value label : String}, isUuidV7 value = true → checkedUuid value label = .ok () :=
    fun hvalue => require_eq_ok.mpr hvalue
  unfold planMatchBatch
  rw [h.validPolicy, hsort]
  show (assertCandidates J now [] [] (oldest :: later) >>= fun _ => _) = _
  rw [hassert]
  show (checkedUuid ids.eventId "event" >>= fun _ => _) = _
  rw [hids h.eventId]
  show (checkedUuid ids.batchId "batch" >>= fun _ => _) = _
  rw [hids h.batchId]
  show (checkedUuid ids.outboxId "outbox" >>= fun _ => _) = _
  rw [hids h.outboxId]
  rfl

/-- **How the planner ends**: it cannot publish its first candidate alone, or it selects all that fits. -/
theorem planMatchBatch_spec (sha256Hex : String → String) (h : Plannable J now policy ids candidates)
    (hwrites : WritesDates J now policy candidates) (hyears : InYears J now policy candidates)
    (hordered : inOrder J candidates = oldest :: later) :
    ∃ more left, (oldest :: later).take policy.maximumResults = more ++ left ∧
      (more = [] → policy.maximumPayloadBytes <
          payloadBytes (plannedEvent J now policy ids oldest (oldest :: later) [oldest]) ∧
        ∃ e, planMatchBatch J sha256Hex candidates now policy ids = .error e ∧
          e.code = "payload_too_large") ∧
      (more ≠ [] →
        payloadBytes (plannedEvent J now policy ids oldest (oldest :: later) more) ≤
          policy.maximumPayloadBytes ∧
        (∀ c cs, left = c :: cs → policy.maximumPayloadBytes <
          payloadBytes (plannedEvent J now policy ids oldest (oldest :: later) (more ++ [c]))) ∧
        planMatchBatch J sha256Hex candidates now policy ids =
          .ok (if policy.maximumAgeMs ≤ now - J.dateParse oldest.completedAt ∨
              more.length = policy.maximumResults ∨ left ≠ [] then
            some (frozenBatch sha256Hex ids oldest.completedAt
              (toISOString (periodEnd J now policy oldest (oldest :: later)))
              (canonicalJson (plannedEvent J now policy ids oldest (oldest :: later) more))
              (plannedEvent J now policy ids oldest (oldest :: later) more) more)
          else none)) := by
  obtain ⟨hone, -, hmax⟩ := h.limits
  have hserializes : ∀ selected, selected <+: (oldest :: later).take policy.maximumResults →
      selected ≠ [] →
        Serializes J (plannedEvent J now policy ids oldest (oldest :: later)) ([] ++ selected) :=
    fun selected hinitial hne => serialize_createEvent (h.accepts hwrites hyears hordered hinitial hne)
  obtain ⟨more, left, hselects⟩ := selectCandidates_spec hmax hserializes
  have hplan := planMatchBatch_cons sha256Hex h hordered
  have hrest : (oldest :: later).take policy.maximumResults =
      oldest :: later.take (policy.maximumResults - 1) := by
    obtain ⟨n, hn⟩ : ∃ n, policy.maximumResults = n + 1 := ⟨policy.maximumResults - 1, by omega⟩
    rw [hn, List.take_succ_cons, Nat.add_sub_cancel]
  refine ⟨more, left, hselects.split, fun hnone => ?_, fun hsome => ⟨?_, fun c cs hleft => ?_, ?_⟩⟩
  · subst hnone
    have hleft : left = oldest :: later.take (policy.maximumResults - 1) := by
      rw [← hrest, hselects.split, List.nil_append]
    refine ⟨hselects.stops oldest _ hleft, ?_⟩
    obtain ⟨e, herror, hcode⟩ := hselects.none_selected rfl (by rw [hrest]; exact List.cons_ne_nil _ _)
    refine ⟨e, ?_, hcode⟩
    rw [hplan, herror]
    rfl
  · exact hselects.fits hsome
  · exact hselects.stops c cs hleft
  · have hok := hselects.some_selected hsome
    rw [List.nil_append, selectionOf_of_ne_nil hsome] at hok
    have hpayload :
        canonicalJson (plannedEvent J now policy ids oldest (oldest :: later) more) ≠ "" := by
      intro hempty
      have htext := congrArg String.toList hempty
      rw [canonicalJson, String.toList_ofList] at htext
      cases htext
    have hleft : (!left.isEmpty) = true ↔ left ≠ [] := by
      rw [Bool.not_eq_true', List.isEmpty_eq_false_iff]
    have hbind : ∀ (a : Selection) (f : Selection → Except MatchPublisherError (Option FrozenMatchBatch)),
        (Except.ok a >>= f) = f a := fun _ _ => rfl
    rw [hplan, hok, hbind]
    dsimp only
    rw [finishBatch_some hpayload]
    simp only [hleft]

theorem payloadBytes_le_of_prefix {ordered short long : List MatchPublicationCandidate}
    (hinitial : short <+: long) (hlength : long.length ≤ 20) :
    payloadBytes (plannedEvent J now policy ids oldest ordered short) ≤
      payloadBytes (plannedEvent J now policy ids oldest ordered long) := by
  obtain ⟨more, rfl⟩ := hinitial
  induction more using List.reverseRecOn with
  | nil => rw [List.append_nil]
  | append_singleton more last ih =>
    rw [← List.append_assoc] at hlength ⊢
    rw [List.length_append, List.length_singleton] at hlength
    exact (ih (by omega)).trans (payloadBytes_concat (by omega))

theorem payloadBytes_head_le {ordered more left : List MatchPublicationCandidate} {limit : ℕ}
    (hsplit : (oldest :: later).take limit = more ++ left) (hmore : more ≠ []) (hlimit : limit ≤ 20) :
    payloadBytes (plannedEvent J now policy ids oldest ordered [oldest]) ≤
      payloadBytes (plannedEvent J now policy ids oldest ordered more) := by
  have hinitial : more <+: (oldest :: later).take limit := ⟨left, hsplit.symm⟩
  have hlength : more.length ≤ limit := hinitial.length_le.trans (List.length_take_le _ _)
  have hfirst : [oldest] <+: more := by
    obtain ⟨c, cs, rfl⟩ := List.exists_cons_of_ne_nil hmore
    obtain ⟨rfl, -⟩ := List.cons_prefix_cons.mp (hinitial.trans (List.take_prefix _ _))
    exact ⟨cs, rfl⟩
  exact payloadBytes_le_of_prefix hfirst (hlength.trans hlimit)

end Planning

/-! ### The batch of the planner -/

section Batch

/-- The candidates fit in one batch. -/
def Fits (J : JsRuntime) (now : ℤ) (policy : MatchBatchPolicy) (ids : DrawnIds)
    (candidates selected : List MatchPublicationCandidate) : Prop :=
  selected.length ≤ policy.maximumResults ∧
    payloadBytes (batchEvent J now policy ids candidates selected) ≤ policy.maximumPayloadBytes

/-- The age, the result count or the payload limit is reached. -/
def LimitReached (J : JsRuntime) (now : ℤ) (policy : MatchBatchPolicy) (ids : DrawnIds)
    (candidates : List MatchPublicationCandidate) : Prop :=
  (∃ c ∈ (inOrder J candidates).head?, policy.maximumAgeMs ≤ now - J.dateParse c.completedAt) ∨
    policy.maximumResults ≤ candidates.length ∨
    ∃ selected, selected <+: inOrder J candidates ∧ selected ≠ [] ∧
      selected.length ≤ policy.maximumResults ∧
      policy.maximumPayloadBytes < payloadBytes (batchEvent J now policy ids candidates selected)

/-- **The longest prefix that fits**, with the payload, the hash and the size of its event. -/
structure PlannedBatch (J : JsRuntime) (sha256Hex : String → String) (now : ℤ)
    (policy : MatchBatchPolicy) (ids : DrawnIds) (candidates : List MatchPublicationCandidate)
    (batch : FrozenMatchBatch) : Prop where
  taken : batch.candidates <+: inOrder J candidates
  fits : Fits J now policy ids candidates batch.candidates
  longest : ∀ selected, selected <+: inOrder J candidates → Fits J now policy ids candidates selected →
    selected <+: batch.candidates
  event : batch.event = batchEvent J now policy ids candidates batch.candidates
  accepted : (matchBatchSchema J).Accepts batch.event
  payload : batch.canonicalPayload = canonicalJson batch.event
  hash : batch.payloadSha256 = sha256Hex (canonicalJson batch.event)
  bytes : batch.payloadByteCount = payloadBytes batch.event

variable {J : JsRuntime} {sha256Hex : String → String} {now : ℤ} {policy : MatchBatchPolicy}
  {ids : DrawnIds} {candidates later more left : List MatchPublicationCandidate}
  {oldest : MatchPublicationCandidate}

theorem batchEvent_eq (hordered : inOrder J candidates = oldest :: later)
    (selected : List MatchPublicationCandidate) :
    batchEvent J now policy ids candidates selected =
      plannedEvent J now policy ids oldest (oldest :: later) selected := by
  unfold batchEvent
  rw [hordered]

/-- The limits, after the loop has selected `more` and left `left`. -/
theorem limitReached_iff (h : Plannable J now policy ids candidates)
    (hordered : inOrder J candidates = oldest :: later)
    (hsplit : (oldest :: later).take policy.maximumResults = more ++ left)
    (hfits : payloadBytes (plannedEvent J now policy ids oldest (oldest :: later) more) ≤
      policy.maximumPayloadBytes)
    (hstops : ∀ c cs, left = c :: cs → policy.maximumPayloadBytes <
      payloadBytes (plannedEvent J now policy ids oldest (oldest :: later) (more ++ [c]))) :
    LimitReached J now policy ids candidates ↔
      policy.maximumAgeMs ≤ now - J.dateParse oldest.completedAt ∨
        more.length = policy.maximumResults ∨ left ≠ [] := by
  obtain ⟨hone, htwenty, -⟩ := h.limits
  have hlength : candidates.length = (oldest :: later).length := by
    rw [← hordered]
    exact perm_inOrder.length_eq.symm
  have htake : more.length + left.length ≤ policy.maximumResults ∧
      more.length + left.length ≤ (oldest :: later).length := by
    rw [← List.length_append, ← hsplit, List.length_take]
    omega
  have hinitial : more ++ left <+: oldest :: later := hsplit ▸ List.take_prefix _ _
  unfold LimitReached
  simp only [batchEvent_eq hordered, hordered, List.head?_cons, Option.mem_some_iff, exists_eq_left',
    hlength]
  constructor
  · rintro (hage | hcount | ⟨selected, hselected, hne, hmax, hover⟩)
    · exact .inl hage
    · by_cases hleft : left = []
      · right
        left
        have hall := congrArg List.length hsplit
        rw [List.length_take, hleft, List.append_nil] at hall
        omega
      · exact .inr (.inr hleft)
    · refine .inr (.inr fun hleft => ?_)
      subst hleft
      -- a prefix within the result count is a prefix of the selected ones
      have hshort : selected <+: more := by
        rw [← List.append_nil more, ← hsplit]
        exact List.prefix_take_iff.mpr ⟨hselected, hmax⟩
      have hle : payloadBytes (plannedEvent J now policy ids oldest (oldest :: later) selected) ≤
          payloadBytes (plannedEvent J now policy ids oldest (oldest :: later) more) :=
        payloadBytes_le_of_prefix hshort (by omega)
      omega
  · rintro (hage | hcount | hleft)
    · exact .inl hage
    · right
      left
      omega
    · obtain ⟨c, cs, rfl⟩ := List.exists_cons_of_ne_nil hleft
      rw [List.length_cons] at htake
      refine .inr (.inr ⟨more ++ [c], ?_, ?_, ?_, hstops c cs rfl⟩)
      · exact List.IsPrefix.trans ⟨cs, by rw [List.append_assoc, List.singleton_append]⟩ hinitial
      · exact List.append_ne_nil_of_right_ne_nil _ (List.cons_ne_nil _ _)
      · rw [List.length_append, List.length_singleton]
        omega

theorem longest_of_stops (h : Plannable J now policy ids candidates)
    (hordered : inOrder J candidates = oldest :: later)
    (hsplit : (oldest :: later).take policy.maximumResults = more ++ left)
    (hstops : ∀ c cs, left = c :: cs → policy.maximumPayloadBytes <
      payloadBytes (plannedEvent J now policy ids oldest (oldest :: later) (more ++ [c])))
    {selected : List MatchPublicationCandidate} (hselected : selected <+: inOrder J candidates)
    (hfits : Fits J now policy ids candidates selected) : selected <+: more := by
  obtain ⟨-, htwenty, -⟩ := h.limits
  obtain ⟨hmax, hbytes⟩ := hfits
  rw [batchEvent_eq hordered] at hbytes
  rw [hordered] at hselected
  have hshort : selected <+: more ++ left := by
    rw [← hsplit]
    exact List.prefix_take_iff.mpr ⟨hselected, hmax⟩
  cases left with
  | nil => rwa [List.append_nil] at hshort
  | cons c cs =>
    have hcut : more ++ [c] <+: more ++ c :: cs :=
      ⟨cs, by rw [List.append_assoc, List.singleton_append]⟩
    rcases List.prefix_or_prefix_of_prefix hshort hcut with hle | hge
    · rcases List.prefix_concat_iff.mp hle with heq | hle
      · have := hstops c cs rfl
        rw [← heq] at this
        omega
      · exact hle
    · have hover := hstops c cs rfl
      have hle : payloadBytes (plannedEvent J now policy ids oldest (oldest :: later) (more ++ [c])) ≤
          payloadBytes (plannedEvent J now policy ids oldest (oldest :: later) selected) :=
        payloadBytes_le_of_prefix hge (by omega)
      omega

theorem plannedBatch_frozenBatch {periodStart periodStop : String} {event : Json}
    {selected : List MatchPublicationCandidate} (htaken : selected <+: inOrder J candidates)
    (hfits : Fits J now policy ids candidates selected)
    (hlongest : ∀ other, other <+: inOrder J candidates → Fits J now policy ids candidates other →
      other <+: selected)
    (hevent : event = batchEvent J now policy ids candidates selected)
    (haccepted : (matchBatchSchema J).Accepts event) :
    PlannedBatch J sha256Hex now policy ids candidates
      (frozenBatch sha256Hex ids periodStart periodStop (canonicalJson event) event selected) where
  taken := htaken
  fits := hfits
  longest := hlongest
  event := hevent
  accepted := haccepted
  payload := rfl
  hash := rfl
  bytes := rfl

theorem planMatchBatch_congr (h : Plannable J now policy ids candidates)
    {candidates' : List MatchPublicationCandidate} (hperm : candidates'.Perm candidates) :
    planMatchBatch J sha256Hex candidates' now policy ids =
      planMatchBatch J sha256Hex candidates now policy ids := by
  have hsame : candidates'.insertionSort (compareCandidates J) =
      candidates.insertionSort (compareCandidates J) := inOrder_congr h.rounds hperm
  unfold planMatchBatch
  rw [hsame]

/-- **What the planner plans**: it fails only when the first candidate alone does not fit, it returns a
batch when a limit is reached, the batch is the longest prefix that fits, and the order of the input does
not matter. -/
theorem planMatchBatch_plans (sha256Hex : String → String)
    (h : Plannable J now policy ids candidates) (hwrites : WritesDates J now policy candidates)
    (hyears : InYears J now policy candidates) :
    (∀ e, planMatchBatch J sha256Hex candidates now policy ids = .error e →
        e.code = "payload_too_large") ∧
      ((∃ e, planMatchBatch J sha256Hex candidates now policy ids = .error e) ↔
        ∃ first ∈ (inOrder J candidates).head?, policy.maximumPayloadBytes <
          payloadBytes (batchEvent J now policy ids candidates [first])) ∧
      (∀ result, planMatchBatch J sha256Hex candidates now policy ids = .ok result →
        (result ≠ none ↔ LimitReached J now policy ids candidates)) ∧
      (∀ batch, planMatchBatch J sha256Hex candidates now policy ids = .ok (some batch) →
        PlannedBatch J sha256Hex now policy ids candidates batch) ∧
      ∀ candidates' : List MatchPublicationCandidate, candidates'.Perm candidates →
        planMatchBatch J sha256Hex candidates' now policy ids =
          planMatchBatch J sha256Hex candidates now policy ids := by
  obtain ⟨hone, htwenty, -⟩ := h.limits
  cases hordered : inOrder J candidates with
  | nil =>
    have hplan := planMatchBatch_nil sha256Hex h hordered
    have hempty : candidates = [] := by
      rw [← List.length_eq_zero_iff, ← (perm_inOrder : (inOrder J candidates).Perm candidates).length_eq, hordered]
      rfl
    have hnot : ¬ LimitReached J now policy ids candidates := by
      unfold LimitReached
      rw [hordered, hempty]
      rintro (⟨c, hc, -⟩ | hcount | ⟨selected, hselected, hne, -⟩)
      · cases hc
      · exact absurd hcount (by rw [List.length_nil]; omega)
      · exact hne (List.prefix_nil.mp hselected)
    rw [hplan]
    refine ⟨fun e he => (by cases he), ⟨fun ⟨e, he⟩ => (by cases he), fun ⟨c, hc, _⟩ => (by cases hc)⟩,
      fun result hresult => ?_, fun batch hbatch => (by cases hbatch), fun candidates' hperm => ?_⟩
    · rw [← Except.ok.inj hresult]
      exact ⟨fun hne => absurd rfl hne, fun hlimit => absurd hlimit hnot⟩
    · rw [planMatchBatch_congr h hperm, hplan]
  | cons oldest later =>
    obtain ⟨more, left, hsplit, hnone, hsome⟩ :=
      planMatchBatch_spec sha256Hex h hwrites hyears hordered
    have hhead : (∃ first ∈ (oldest :: later).head?, policy.maximumPayloadBytes <
        payloadBytes (batchEvent J now policy ids candidates [first])) ↔
          policy.maximumPayloadBytes <
            payloadBytes (plannedEvent J now policy ids oldest (oldest :: later) [oldest]) := by
      simp only [List.head?_cons, Option.mem_some_iff, exists_eq_left', batchEvent_eq hordered]
    by_cases hmore : more = []
    · obtain ⟨hover, e, herror, hcode⟩ := hnone hmore
      rw [herror, hhead]
      refine ⟨fun e' he' => ?_, ⟨fun _ => hover, fun _ => ⟨e, rfl⟩⟩, fun result hresult => ?_,
        fun batch hbatch => ?_, fun candidates' hperm => ?_⟩
      · rw [← Except.error.inj he']
        exact hcode
      · cases hresult
      · cases hbatch
      · rw [planMatchBatch_congr h hperm, herror]
    · obtain ⟨hbytes, hstops, hplan⟩ := hsome hmore
      have hinitial : more <+: (oldest :: later).take policy.maximumResults :=
        ⟨left, hsplit.symm⟩
      have hlength : more.length ≤ policy.maximumResults :=
        hinitial.length_le.trans (List.length_take_le _ _)
      have hlimit := limitReached_iff h hordered hsplit hbytes hstops
      have hfits : payloadBytes (plannedEvent J now policy ids oldest (oldest :: later) [oldest]) ≤
          payloadBytes (plannedEvent J now policy ids oldest (oldest :: later) more) :=
        payloadBytes_head_le hsplit hmore htwenty
      rw [hplan, hhead]
      refine ⟨fun e he => (by cases he), ⟨fun ⟨e, he⟩ => (by cases he), fun hover => ?_⟩,
        fun result hresult => ?_, fun batch hbatch => ?_, fun candidates' hperm => ?_⟩
      · omega
      · rw [← Except.ok.inj hresult, hlimit]
        by_cases hdue : policy.maximumAgeMs ≤ now - J.dateParse oldest.completedAt ∨
            more.length = policy.maximumResults ∨ left ≠ []
        · rw [if_pos hdue]
          exact ⟨fun _ => hdue, fun _ h => by cases h⟩
        · rw [if_neg hdue]
          exact ⟨fun hne => absurd rfl hne, fun h => absurd h hdue⟩
      · have hbatch := Except.ok.inj hbatch
        by_cases hdue : policy.maximumAgeMs ≤ now - J.dateParse oldest.completedAt ∨
            more.length = policy.maximumResults ∨ left ≠ []
        · rw [if_pos hdue] at hbatch
          obtain rfl := Option.some.inj hbatch
          have hfit : Fits J now policy ids candidates more := by
            refine ⟨hlength, ?_⟩
            rw [batchEvent_eq hordered]
            exact hbytes
          have htaken : more <+: inOrder J candidates := by
            rw [hordered]
            exact hinitial.trans (List.take_prefix _ _)
          exact plannedBatch_frozenBatch htaken hfit
            (fun selected => longest_of_stops h hordered hsplit hstops) (batchEvent_eq hordered more).symm
            (h.accepts hwrites hyears hordered hinitial hmore)
        · rw [if_neg hdue] at hbatch
          cases hbatch
      · rw [planMatchBatch_congr h hperm, hplan]

end Batch

/-! ### Two plans -/

/-- Instants that the example runtime reads: the first seconds, and the turn of the year 9999. -/
def exampleInstants : List ℤ := [1000, 2000, 5000, 253402300799999, 253402300800000]

/-- A runtime that reads these instants as `toISOString` writes them. -/
def clockJs : JsRuntime :=
  { isoJs with
    dateParse := fun text => (exampleInstants.find? fun ms => toISOString ms == text).getD 0 }

/-- A round of one hider. -/
def soloResult (roundId completedAt : String) : Json := .object [
  ("round_id", .string roundId),
  ("completed_at", .string completedAt),
  ("context", .string "normal"),
  ("mode", .string "casual"),
  ("result_schema", .string "match-result-1"),
  ("scoring_rules", .string "scoring-1"),
  ("map", .object [
    ("map_id", .string "01890f3e-0000-7000-8000-0000000000c1"),
    ("version_id", .string "01890f3e-0000-7000-8000-0000000000c2"),
    ("version", .string "1"),
    ("content_sha256",
      .string "44136fa355b3678a1146ad16f7e8649e94fb4fc21fe77e8310c060f61caaff8a")]),
  ("server", .object [("build", .string "0.1.0"), ("protocol", .string "match-1")]),
  ("winning_side", .string "none"),
  ("winner_accounts", .array []),
  ("participants", .array [.object [
    ("account", .string "hider"), ("initial_role", .string "hider"), ("final_role", .string "hider"),
    ("outcome", .string "survived"), ("score", .string "1.0000")]]),
  ("discoveries", .array []),
  ("survivors", .array [.string "hider"]),
  ("likes", .array []),
  ("result_sha256",
    .string "44136fa355b3678a1146ad16f7e8649e94fb4fc21fe77e8310c060f61caaff8a")]

def soloCandidate (requestId roundId : String) (completedAt : ℤ) : MatchPublicationCandidate where
  publicationRequestId := requestId
  resultRevisionId := "01890f3e-0000-7000-8000-0000000000e1"
  roundId := roundId
  completedAt := toISOString completedAt
  publicResult := soloResult roundId (toISOString completedAt)

def examplePolicy : MatchBatchPolicy := ⟨"hivechameleon", 1000, 20, 6144⟩

def exampleIds : DrawnIds where
  eventId := "01890f3e-0000-7000-8000-0000000000f1"
  batchId := "01890f3e-0000-7000-8000-0000000000f2"
  outboxId := "01890f3e-0000-7000-8000-0000000000f3"

/-- Two candidates, the later one first. -/
def exampleCandidates : List MatchPublicationCandidate :=
  [soloCandidate "01890f3e-0000-7000-8000-0000000000d2" "01890f3e-0000-7000-8000-0000000000b2" 2000,
    soloCandidate "01890f3e-0000-7000-8000-0000000000d1" "01890f3e-0000-7000-8000-0000000000b1" 1000]

theorem validCandidate_solo {requestId roundId : String} {completedAt : ℤ}
    (h : ((matchResultSchema clockJs).parse (soloResult roundId (toISOString completedAt))).isSome = true) :
    ValidCandidate clockJs (soloCandidate requestId roundId completedAt) where
  result := Option.isSome_iff_exists.mp h
  completedAt := rfl
  roundId := rfl

theorem plannable_example : Plannable clockJs 5000 examplePolicy exampleIds exampleCandidates where
  validPolicy := by decide
  publisher := by decide +kernel
  eventId := by decide +kernel
  batchId := by decide +kernel
  outboxId := by decide +kernel
  valid := by
    intro c hc
    rcases List.mem_cons.mp hc with rfl | hc
    · exact validCandidate_solo (by decide +kernel)
    · rw [List.mem_singleton.mp hc]
      exact validCandidate_solo (by decide +kernel)
  rounds := by decide +kernel
  requests := by decide +kernel
  completed := by decide +kernel

/-- The two candidates are old enough for a batch. -/
theorem planMatchBatch_plans_two :
    ∃ batch, planMatchBatch clockJs id exampleCandidates 5000 examplePolicy exampleIds =
        .ok (some batch) ∧
      PlannedBatch clockJs id 5000 examplePolicy exampleIds exampleCandidates batch := by
  have hyears : InYears clockJs 5000 examplePolicy exampleCandidates := by
    unfold InYears
    decide +kernel
  obtain ⟨-, herror, hlimit, hbatch, -⟩ :=
    planMatchBatch_plans id plannable_example ⟨datetime_isoJs, by decide +kernel⟩ hyears
  have hage : LimitReached clockJs 5000 examplePolicy exampleIds exampleCandidates :=
    .inl (by decide +kernel)
  cases hplan : planMatchBatch clockJs id exampleCandidates 5000 examplePolicy exampleIds with
  | error e =>
    obtain ⟨first, hfirst, hover⟩ := herror.mp ⟨e, hplan⟩
    have hweight : (batchEvent clockJs 5000 examplePolicy exampleIds exampleCandidates [first]).weight ≤
        6144 := by
      have hhead : ∀ c ∈ (inOrder clockJs exampleCandidates).head?, (batchEvent clockJs 5000
          examplePolicy exampleIds exampleCandidates [c]).weight ≤ 6144 := by decide +kernel
      exact hhead first hfirst
    have hbytes := (utf8ByteSize_canonicalJson_le _).trans hweight
    exact absurd hover (not_lt_of_ge hbytes)
  | ok result =>
    cases result with
    | none => exact absurd rfl ((hlimit none hplan).mpr hage)
    | some batch => exact ⟨batch, rfl, hbatch batch hplan⟩

/-- The code of an error. -/
def errorCode {α : Type} : Except MatchPublisherError α → String
  | .error e => e.code
  | .ok _ => ""

/-- A round that ends in the last millisecond of the year 9999, planned in that millisecond. -/
def lastCandidates : List MatchPublicationCandidate :=
  [soloCandidate "01890f3e-0000-7000-8000-0000000000d1" "01890f3e-0000-7000-8000-0000000000b1"
    253402300799999]

/-- A period that ends in the year 10000 has no timestamp, and the candidate is refused. -/
theorem planMatchBatch_refuses_last :
    ¬ ∀ (candidates : List MatchPublicationCandidate) (now : ℤ) (policy : MatchBatchPolicy)
        (ids : DrawnIds), Plannable clockJs now policy ids candidates →
      WritesDates clockJs now policy candidates →
        ∀ e, planMatchBatch clockJs id candidates now policy ids = .error e →
          e.code = "payload_too_large" := by
  intro h
  have hplannable : Plannable clockJs 253402300799999 examplePolicy exampleIds lastCandidates :=
    { validPolicy := by decide
      publisher := by decide +kernel
      eventId := by decide +kernel
      batchId := by decide +kernel
      outboxId := by decide +kernel
      valid := by
        intro c hc
        rw [List.mem_singleton.mp hc]
        exact validCandidate_solo (by decide +kernel)
      rounds := by decide +kernel
      requests := by decide +kernel
      completed := by decide +kernel }
  have hcode : errorCode (planMatchBatch clockJs id lastCandidates 253402300799999 examplePolicy
      exampleIds) = "invalid_candidate" := by
    decide +kernel
  cases hplan : planMatchBatch clockJs id lastCandidates 253402300799999 examplePolicy exampleIds with
  | ok result =>
    rw [hplan] at hcode
    exact absurd (show "" = "invalid_candidate" from hcode) (by decide)
  | error e =>
    rw [hplan] at hcode
    have hlarge := h lastCandidates 253402300799999 examplePolicy exampleIds hplannable
      ⟨datetime_isoJs, by decide +kernel⟩ e hplan
    exact absurd (hcode.symm.trans hlarge) (by decide)

end HiveChameleon.Publisher.PublicMatch
