import HiveChameleon.Projector.Model

/-!
# Projector.Validator — `HiveOperationValidator`

Which operations of a block become evidence, and which evidence is accepted as an event.
-/

namespace HiveChameleon.Projector

open Gateway

structure HiveEventValidationPolicy where
  matchPublishers : List String
  collectibleIssuers : List String
  maximumFutureClockSkewMs : ℤ := 5 * 60 * 1000
deriving DecidableEq

/-- The `id` that the namespace schema reads off a value. -/
def OperationValue.namespaceId : OperationValue → Option String
  | .customJson _ _ id _ => some id
  | .other (.object fields) =>
    match fields.find? "id" with
    | some (.string (.text id)) => some id
    | _ => none
  | .other _ => none

def buildMalformedEvidence (operation : HafOperation) (block : HafBlock) : RawOperationEvidence where
  sourceOperationId := operation.sourceOperationId
  transactionId := operation.transactionId
  operationIndex := operation.operationIndex
  isVirtual := operation.isVirtual
  blockNumber := operation.blockNumber
  blockId := block.id
  blockTimestamp := block.timestamp
  operationType := operation.operationType
  primaryAccount := "unknown"
  requiredAuthority := none
  applicationId := some hiveChameleonApplicationId
  payload := operation.value

/-- The evidence of a well-formed `custom_json` operation. -/
def buildEvidence (operation : HafOperation) (block : HafBlock)
    (auths postingAuths : List HiveAccount) (id : String) : RawOperationEvidence where
  sourceOperationId := operation.sourceOperationId
  transactionId := operation.transactionId
  operationIndex := operation.operationIndex
  isVirtual := operation.isVirtual
  blockNumber := operation.blockNumber
  blockId := block.id
  blockTimestamp := block.timestamp
  operationType := operation.operationType
  primaryAccount := ((postingAuths.head?.or auths.head?).map (·.name)).getD "unknown"
  requiredAuthority :=
    if postingAuths ≠ [] then some .posting else if auths ≠ [] then some .active else none
  applicationId := some id
  payload := operation.value

def isSignerAllowed (policy : HiveEventValidationPolicy) (event : HiveChameleonEvent)
    (signer : String) : Bool :=
  match event with
  | .matchResultsBatch e => policy.matchPublishers.contains signer && e.publisher.name == signer
  | .matchResultCorrected e => policy.matchPublishers.contains signer && e.publisher.name == signer
  | .matchResultInvalidated e =>
    policy.matchPublishers.contains signer && e.publisher.name == signer
  | .collectibleIssued e => policy.collectibleIssuers.contains signer && e.issuer.name == signer
  | .collectibleRevoked _ => policy.collectibleIssuers.contains signer

def rejected (evidence : RawOperationEvidence) (reason : String) : OperationDecision :=
  ⟨evidence, .rejected, some reason, none⟩

/-- `parseHiveChameleonEvent` of the `json` of an operation. -/
def parseOperationJson (R : Runtime) : JsString → Except HiveGatewayErrorCode HiveChameleonEvent
  | .text json => parseHiveChameleonEvent R json
  | .lone points surrogate unpaired => .error (R.refusal (.lone points surrogate unpaired))

/-- `HiveOperationValidator.validate`; `none` leaves the operation out of the projection. -/
def validate (R : Runtime) (policy : HiveEventValidationPolicy) (operation : HafOperation)
    (block : HafBlock) : Option OperationDecision :=
  if operation.operationType ≠ "custom_json_operation" then none
  else if operation.value.namespaceId ≠ some hiveChameleonApplicationId then none
  else
    match operation.value with
    | .other _ => some (rejected (buildMalformedEvidence operation block) "invalid_operation")
    | .customJson auths postingAuths id json =>
      let evidence := buildEvidence operation block auths postingAuths id
      if operation.isVirtual ∨ auths.length ≠ 0 ∨ postingAuths.length ≠ 1 then
        some (rejected evidence "unexpected_authority")
      else
        match parseOperationJson R json with
        | .error code => some (rejected evidence code.text)
        | .ok event =>
          match postingAuths.head? with
          | none => some (rejected evidence "unexpected_authority")
          | some signer =>
            if ¬ isSignerAllowed policy event signer.name then
              some (rejected evidence "signer_not_allowed")
            else if R.dateParse event.occurredAt
                > block.timestamp + policy.maximumFutureClockSkewMs then
              some (rejected evidence "future_event_timestamp")
            else some ⟨evidence, .accepted, none, some event⟩

/-- The operation stands in the application's namespace: the projection takes it up. -/
def InNamespace (operation : HafOperation) : Prop :=
  operation.operationType = "custom_json_operation" ∧
    operation.value.namespaceId = some hiveChameleonApplicationId

instance (operation : HafOperation) : Decidable (InNamespace operation) :=
  inferInstanceAs (Decidable (_ ∧ _))

/-- The checks that `validate` makes on the way to an accepted event. -/
structure Accepts (R : Runtime) (policy : HiveEventValidationPolicy) (operation : HafOperation)
    (block : HafBlock) (signer : HiveAccount) (json : String) (event : HiveChameleonEvent) :
    Prop where
  operationType : operation.operationType = "custom_json_operation"
  isVirtual : operation.isVirtual = false
  value : operation.value = .customJson [] [signer] hiveChameleonApplicationId (.text json)
  parse : parseHiveChameleonEvent R json = .ok event
  allowed : isSignerAllowed policy event signer.name = true
  notFuture : R.dateParse event.occurredAt ≤ block.timestamp + policy.maximumFutureClockSkewMs

section

variable {R : Runtime} {policy : HiveEventValidationPolicy} {operation : HafOperation}
  {block : HafBlock} {decision : OperationDecision} {signer : HiveAccount} {json : String}
  {event : HiveChameleonEvent}

theorem Accepts.inNamespace (h : Accepts R policy operation block signer json event) :
    InNamespace operation := by
  refine ⟨h.operationType, ?_⟩
  rw [h.value]
  rfl

theorem validate_eq_none : validate R policy operation block = none ↔ ¬ InNamespace operation := by
  unfold validate
  by_cases htype : operation.operationType ≠ "custom_json_operation"
  · rw [if_pos htype]
    exact ⟨fun _ h => htype h.1, fun _ => rfl⟩
  rw [if_neg htype]
  by_cases hnamespace : operation.value.namespaceId ≠ some hiveChameleonApplicationId
  · rw [if_pos hnamespace]
    exact ⟨fun _ h => hnamespace h.2, fun _ => rfl⟩
  rw [if_neg hnamespace]
  have hin : InNamespace operation := ⟨not_not.mp htype, not_not.mp hnamespace⟩
  refine ⟨fun h => absurd h ?_, fun h => absurd hin h⟩
  cases operation.value with
  | other value => exact Option.some_ne_none _
  | customJson auths postingAuths id json =>
    dsimp only
    repeat' split
    all_goals exact Option.some_ne_none _

theorem Accepts.validate (h : Accepts R policy operation block signer json event) :
    validate R policy operation block =
      some ⟨buildEvidence operation block [] [signer] hiveChameleonApplicationId, .accepted, none,
        some event⟩ := by
  have hnamespace := h.inNamespace.2
  have hvirtual := h.isVirtual
  unfold Projector.validate
  rw [if_neg (not_not.mpr h.operationType), if_neg (not_not.mpr hnamespace), h.value]
  dsimp only
  rw [if_neg (by simp [hvirtual]), parseOperationJson, h.parse]
  dsimp only [List.head?_cons]
  rw [if_neg (not_not.mpr h.allowed), if_neg (not_lt.mpr h.notFuture)]

theorem validate_evidence (h : validate R policy operation block = some decision) :
    decision.evidence = buildMalformedEvidence operation block ∨
      ∃ auths postingAuths id json, operation.value = .customJson auths postingAuths id json ∧
        decision.evidence = buildEvidence operation block auths postingAuths id := by
  unfold Projector.validate at h
  by_cases htype : operation.operationType ≠ "custom_json_operation"
  · rw [if_pos htype] at h
    cases h
  rw [if_neg htype] at h
  by_cases hnamespace : operation.value.namespaceId ≠ some hiveChameleonApplicationId
  · rw [if_pos hnamespace] at h
    cases h
  rw [if_neg hnamespace] at h
  cases hvalue : operation.value with
  | other id =>
    rw [hvalue] at h
    obtain rfl := Option.some.inj h
    exact .inl rfl
  | customJson auths postingAuths id json =>
    refine .inr ⟨auths, postingAuths, id, json, rfl, ?_⟩
    rw [hvalue] at h
    simp only at h
    repeat' split at h
    all_goals
      obtain rfl := Option.some.inj h
      rfl

/-- The two ways a decision ends, accepted with its event or rejected with a reason. -/
theorem validate_cases (h : validate R policy operation block = some decision) :
    (∃ signer json event, Accepts R policy operation block signer json event) ∨
      decision.validationState = .rejected ∧ decision.rejectionReason ≠ none ∧
        decision.event = none := by
  have hrejected : ∀ evidence reason, decision = rejected evidence reason →
      decision.validationState = .rejected ∧ decision.rejectionReason ≠ none ∧
        decision.event = none := by
    rintro evidence reason rfl
    exact ⟨rfl, Option.some_ne_none _, rfl⟩
  unfold Projector.validate at h
  by_cases htype : operation.operationType ≠ "custom_json_operation"
  · rw [if_pos htype] at h
    cases h
  rw [if_neg htype] at h
  by_cases hnamespace : operation.value.namespaceId ≠ some hiveChameleonApplicationId
  · rw [if_pos hnamespace] at h
    cases h
  rw [if_neg hnamespace] at h
  cases hvalue : operation.value with
  | other value =>
    rw [hvalue] at h
    exact .inr (hrejected _ _ (Option.some.inj h).symm)
  | customJson auths postingAuths id json =>
    rw [hvalue] at h hnamespace
    obtain rfl : id = hiveChameleonApplicationId := Option.some.inj (not_not.mp hnamespace)
    simp only at h
    by_cases hauthority : operation.isVirtual = true ∨ auths.length ≠ 0 ∨ postingAuths.length ≠ 1
    · rw [if_pos hauthority] at h
      exact .inr (hrejected _ _ (Option.some.inj h).symm)
    rw [if_neg hauthority] at h
    have hvirtual : operation.isVirtual = false :=
      Bool.eq_false_iff.mpr fun htrue => hauthority (.inl htrue)
    obtain rfl : auths = [] :=
      List.eq_nil_of_length_eq_zero (not_not.mp fun hne => hauthority (.inr (.inl hne)))
    have hone : postingAuths.length = 1 := not_not.mp fun hne => hauthority (.inr (.inr hne))
    obtain ⟨signer, rfl⟩ := List.length_eq_one_iff.mp hone
    cases hparse : parseOperationJson R json with
    | error code =>
      rw [hparse] at h
      exact .inr (hrejected _ _ (Option.some.inj h).symm)
    | ok event =>
      rw [hparse] at h
      obtain ⟨json, rfl⟩ : ∃ text, json = .text text := by
        cases json with
        | text json => exact ⟨json, rfl⟩
        | lone points surrogate unpaired => cases hparse
      simp only [List.head?_cons] at h
      by_cases hsigner : isSignerAllowed policy event signer.name = true
      · rw [if_neg (not_not.mpr hsigner)] at h
        split at h
        · exact .inr (hrejected _ _ (Option.some.inj h).symm)
        · rename_i hfuture
          exact .inl ⟨signer, json, event, not_not.mp htype, hvirtual, hvalue, hparse, hsigner,
            not_lt.mp hfuture⟩
      · rw [if_pos hsigner] at h
        exact .inr (hrejected _ _ (Option.some.inj h).symm)

end

end HiveChameleon.Projector
