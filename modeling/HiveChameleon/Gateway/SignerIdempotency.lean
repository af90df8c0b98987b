import HiveChameleon.Gateway.Signer

/-!
# Gateway.SignerIdempotency — one signature for an idempotency key

Any number of `sign` calls over one `SignerIdempotencyLedger` and one provider, in any interleaving,
each of them failing, crashing or retried between any two awaits.  The ledger is what its contract
says; the provider answers anything.
-/

namespace HiveChameleon.Gateway

open Lib

/-! ### The ledger's contract -/

/-- A reservation, and its response once it is completed. -/
structure LedgerRecord where
  binding : SignerIdempotencyBinding
  leaseId : String
  response : Option IsolatedSignerResponse
deriving DecidableEq

/-- The record of each key. -/
abbrev Ledger := String → Option LedgerRecord

/-- The ledger and the calls that the provider received. -/
structure SignerWorld where
  ledger : Ledger
  requests : List SignDigestRequest

/-- The record of a key after a write. -/
def SignerWorld.write (s : SignerWorld) (key : String) (record : Option LedgerRecord) : SignerWorld :=
  { s with ledger := Function.update s.ledger key record }

/-- The lease is the active one of this very request. -/
def SignerWorld.Active (s : SignerWorld) (binding : SignerIdempotencyBinding) (leaseId : String) :
    Prop :=
  s.ledger binding.idempotencyKey = some ⟨binding, leaseId, none⟩

/-- What an atomic `acquire` may do and answer.  A call may fail before or after the reservation; an
identical acquire gets no answer while the reservation is active. -/
inductive AcquireAnswer (binding : SignerIdempotencyBinding) (s : SignerWorld) :
    Except HiveGatewayError SignerIdempotencyAcquisition → SignerWorld → Prop
  | acquired (leaseId : String) (hfree : s.ledger binding.idempotencyKey = none) :
      AcquireAnswer binding s (.ok (.acquired leaseId))
        (s.write binding.idempotencyKey (some ⟨binding, leaseId, none⟩))
  | conflict {record : LedgerRecord} (hbound : s.ledger binding.idempotencyKey = some record)
      (hother : record.binding ≠ binding) : AcquireAnswer binding s (.ok .conflict) s
  | replay {leaseId : String} {response : IsolatedSignerResponse}
      (hdone : s.ledger binding.idempotencyKey = some ⟨binding, leaseId, some response⟩) :
      AcquireAnswer binding s (.ok (.replay response)) s
  | failed (e : HiveGatewayError) : AcquireAnswer binding s (.error e) s
  | lost (e : HiveGatewayError) (leaseId : String)
      (hfree : s.ledger binding.idempotencyKey = none) : AcquireAnswer binding s (.error e)
        (s.write binding.idempotencyKey (some ⟨binding, leaseId, none⟩))

/-- `complete` replaces the matching active lease by the response; it may fail before or after. -/
inductive CompleteAnswer (binding : SignerIdempotencyBinding) (leaseId : String)
    (response : IsolatedSignerResponse) (s : SignerWorld) :
    Except HiveGatewayError Unit → SignerWorld → Prop
  | completed (r : Except HiveGatewayError Unit) (hactive : s.Active binding leaseId) :
      CompleteAnswer binding leaseId response s r
        (s.write binding.idempotencyKey (some ⟨binding, leaseId, some response⟩))
  | failed (e : HiveGatewayError) : CompleteAnswer binding leaseId response s (.error e) s

/-- `abort` clears the matching active lease, and nothing else. -/
inductive AbortAnswer (binding : SignerIdempotencyBinding) (leaseId : String) (s : SignerWorld) :
    Except HiveGatewayError Unit → SignerWorld → Prop
  | cleared (r : Except HiveGatewayError Unit) (hactive : s.Active binding leaseId) :
      AbortAnswer binding leaseId s r (s.write binding.idempotencyKey none)
  | kept (r : Except HiveGatewayError Unit) : AbortAnswer binding leaseId s r s

/-- The answers of the ledger and of the provider, which may have signed even when it fails. -/
def signerAnswer : (q : SignerCall) → SignerWorld → Except HiveGatewayError q.Response →
    SignerWorld → Prop
  | .acquire binding, s, r, s' => AcquireAnswer binding s r s'
  | .complete binding leaseId response, s, r, s' => CompleteAnswer binding leaseId response s r s'
  | .abort binding leaseId, s, r, s' => AbortAnswer binding leaseId s r s'
  | .signDigest request, s, _, s' => s' = { s with requests := s.requests ++ [request] }

/-! ### Calls of the boundary -/

section

variable {ι : Type}

/-- The ledger, the provider and the calls, each with its request. -/
abbrev SignerSys (ι : Type) :=
  Sys SignerCall SignerCall.Response HiveGatewayError IsolatedSignerResponse SignerWorld ι

abbrev SignerLabel (ι : Type) := SysLabel SignerCall SignerCall.Response HiveGatewayError ι

variable (B : SignerBoundary) (request : ι → IsolatedSignerRequest)

def SignerSys.start : SignerSys ι := ⟨⟨fun _ => none, []⟩, fun i => sign B (request i)⟩

/-- An answer to one of the calls, or a crash and retry of one. -/
abbrev SignerStep [DecidableEq ι] : SignerSys ι → SignerLabel ι → SignerSys ι → Prop :=
  SysStep (fun s s' => s' = s) signerAnswer fun i => sign B (request i)

/-- The requests are the same but for the text of the transaction, whose digest and identifier they
both carry. -/
def SameRequest (a b : IsolatedSignerRequest) : Prop :=
  { a with unsignedTransactionJson := b.unsignedTransactionJson } = b

/-- The call `i` asked the ledger, which bound its key to its request, whether or not the call
learned of it. -/
def Binds (ts : List (Transition (SignerSys ι) (SignerLabel ι))) (i : ι) : Prop :=
  ∃ t ∈ ts, ∃ r record, t.label = .answer i (.acquire (idempotencyBinding (request i))) r ∧
    t.post.shared.ledger (request i).idempotencyKey = some record ∧
    record.binding = idempotencyBinding (request i)

/-- The call `i` called the provider. -/
def Invokes (ts : List (Transition (SignerSys ι) (SignerLabel ι))) (i : ι) : Prop :=
  ∃ t ∈ ts, ∃ d r, t.label = .answer i (.signDigest d) r

/-- The call `i` returned a response. -/
def Responds (ts : List (Transition (SignerSys ι) (SignerLabel ι))) (i : ι)
    (response : IsolatedSignerResponse) : Prop :=
  ∃ t ∈ ts, (∃ q r, t.label = .answer i q r) ∧ t.post.procs i = .ret response

/-- The provider calls of a run. -/
def providerCalls (ts : List (Transition (SignerSys ι) (SignerLabel ι))) : List SignDigestRequest :=
  ts.filterMap fun t =>
    match t.label with
    | .answer _ (.signDigest d) _ => some d
    | _ => none

/-- **What the ledger and the boundary guarantee together**: at most one provider call for a key; a
key that was bound to one request gets neither a provider call nor a response for a different one;
all responses for a key are equal; and once the provider was called under a key, the acquisition
stays. -/
structure SigningGuarantees (ts : List (Transition (SignerSys ι) (SignerLabel ι))) : Prop where
  once : ∀ key, ((providerCalls ts).filter fun d => d.idempotencyKey = key).length ≤ 1
  rejected : ∀ i j, (request i).idempotencyKey = (request j).idempotencyKey → Binds request ts i →
    ¬ SameRequest (request i) (request j) → ¬ Invokes ts j ∧ ∀ response, ¬ Responds ts j response
  same : ∀ i j a b, (request i).idempotencyKey = (request j).idempotencyKey → Responds ts i a →
    Responds ts j b → a = b
  retained : ∀ us t vs i d r, ts = us ++ t :: vs → t.label = .answer i (.signDigest d) r →
    ∃ leaseId, ∀ u ∈ t :: vs, ∃ response, u.post.shared.ledger d.idempotencyKey =
      some ⟨idempotencyBinding (request i), leaseId, response⟩

/-! ### Records stay -/

/-- Records stay bound to their request under their lease, and responses stay. -/
def Ledger.Grows (L L' : Ledger) : Prop :=
  ∀ key record, L key = some record → ∃ response,
    L' key = some ⟨record.binding, record.leaseId, response⟩ ∧
      ∀ a, record.response = some a → response = some a

theorem Ledger.Grows.refl (L : Ledger) : L.Grows L :=
  fun _ record h => ⟨record.response, h, fun _ => id⟩

theorem Ledger.Grows.trans {L L' L'' : Ledger} (h : L.Grows L') (h' : L'.Grows L'') :
    L.Grows L'' := by
  intro key record hrecord
  obtain ⟨response, hkey, hkeep⟩ := h key record hrecord
  obtain ⟨response', hkey', hkeep'⟩ := h' key _ hkey
  exact ⟨response', hkey', fun a ha => hkeep' a (hkeep a ha)⟩

theorem SignerWorld.write_self {s : SignerWorld} {key : String} {record : Option LedgerRecord} :
    (s.write key record).ledger key = record := Function.update_self _ _ _

theorem SignerWorld.write_of_ne {s : SignerWorld} {key key' : String}
    {record : Option LedgerRecord} (h : key' ≠ key) :
    (s.write key record).ledger key' = s.ledger key' := Function.update_of_ne h _ _

theorem Ledger.Grows.bind {s : SignerWorld} {key : String} {record : LedgerRecord}
    (hfree : s.ledger key = none) : s.ledger.Grows (s.write key (some record)).ledger := by
  intro key' old hold
  have hne : key' ≠ key := by
    rintro rfl
    rw [hfree] at hold
    cases hold
  exact ⟨old.response, by rw [SignerWorld.write_of_ne hne]; exact hold, fun _ => id⟩

theorem Ledger.Grows.complete {s : SignerWorld} {binding : SignerIdempotencyBinding}
    {leaseId : String} {response : IsolatedSignerResponse} (hactive : s.Active binding leaseId) :
    s.ledger.Grows
      (s.write binding.idempotencyKey (some ⟨binding, leaseId, some response⟩)).ledger := by
  intro key old hold
  by_cases hkey : key = binding.idempotencyKey
  · subst hkey
    obtain rfl := Option.some.inj (hold.symm.trans hactive)
    exact ⟨some response, SignerWorld.write_self, nofun⟩
  · exact ⟨old.response, by rw [SignerWorld.write_of_ne hkey]; exact hold, fun _ => id⟩

theorem signerAnswer_grows {q : SignerCall} {s s' : SignerWorld}
    {r : Except HiveGatewayError q.Response} (hq : ∀ binding leaseId, q ≠ .abort binding leaseId)
    (h : signerAnswer q s r s') : s.ledger.Grows s'.ledger := by
  cases q with
  | acquire binding =>
    cases h with
    | acquired leaseId hfree => exact .bind hfree
    | conflict => exact .refl _
    | replay => exact .refl _
    | failed => exact .refl _
    | lost e leaseId hfree => exact .bind hfree
  | complete binding leaseId response =>
    cases h with
    | completed r hactive => exact .complete hactive
    | failed => exact .refl _
  | abort binding leaseId => exact absurd rfl (hq binding leaseId)
  | signDigest d =>
    obtain rfl : s' = _ := h
    exact .refl _

/-! ### The stages of a call -/

/-- Where a call is, and what the ledger says of its key there. -/
inductive SignStage (B : SignerBoundary) (request : IsolatedSignerRequest) (s : SignerWorld) :
    Signing IsolatedSignerResponse → Prop
  | rejected (e : HiveGatewayError) : SignStage B request s (.throw e)
  | asking (hok : assertRequest B request = .ok ()) :
      SignStage B request s (acquireAndSign B request)
  | signing (leaseId : String) (hok : assertRequest B request = .ok ())
      (hactive : s.Active (idempotencyBinding request) leaseId)
      (hunsigned : ∀ d ∈ s.requests, d.idempotencyKey ≠ request.idempotencyKey) :
      SignStage B request s (signUnderLease B request leaseId)
  | completing (leaseId : String) (response : IsolatedSignerResponse)
      (hok : assertRequest B request = .ok ())
      (hactive : s.Active (idempotencyBinding request) leaseId) :
      SignStage B request s (completeSigning request leaseId response)
  | returned (leaseId : String) (response : IsolatedSignerResponse)
      (hok : assertRequest B request = .ok ())
      (hdone : s.ledger request.idempotencyKey =
        some ⟨idempotencyBinding request, leaseId, some response⟩) :
      SignStage B request s (.ret response)

/-- The call holds the lease of its key. -/
def Holds (B : SignerBoundary) (request : IsolatedSignerRequest)
    (p : Signing IsolatedSignerResponse) : Prop :=
  (∃ leaseId, p = signUnderLease B request leaseId) ∨
    ∃ leaseId response, p = completeSigning request leaseId response

/-- The invariant of the calls over one ledger. -/
structure SigningInv (B : SignerBoundary) (request : ι → IsolatedSignerRequest) (S : SignerSys ι) :
    Prop where
  stage : ∀ i, SignStage B (request i) S.shared (S.procs i)
  holder : ∀ i j, Holds B (request i) (S.procs i) → Holds B (request j) (S.procs j) →
    (request i).idempotencyKey = (request j).idempotencyKey → i = j
  once : ∀ key, (S.shared.requests.filter fun d => d.idempotencyKey = key).length ≤ 1
  bound : ∀ d ∈ S.shared.requests, S.shared.ledger d.idempotencyKey ≠ none

variable {B : SignerBoundary} {a b : IsolatedSignerRequest} {s s' : SignerWorld}
  {p : Signing IsolatedSignerResponse}

theorem not_holds_throw (e : HiveGatewayError) : ¬ Holds B a (.throw e) := by
  rintro (⟨_, h⟩ | ⟨_, _, h⟩) <;> cases h

theorem not_holds_ret (response : IsolatedSignerResponse) : ¬ Holds B a (.ret response) := by
  rintro (⟨_, h⟩ | ⟨_, _, h⟩) <;> cases h

theorem not_holds_acquire : ¬ Holds B b (acquireAndSign B a) := by
  rintro (⟨_, h⟩ | ⟨_, _, h⟩)
  · obtain ⟨hcall, -⟩ := Prog.call.inj h; cases hcall
  · obtain ⟨hcall, -⟩ := Prog.call.inj h; cases hcall

theorem SignStage.active (h : SignStage B a s p) (hholds : Holds B a p) :
    s.ledger a.idempotencyKey ≠ none := by
  cases h with
  | rejected e => exact absurd hholds (not_holds_throw e)
  | asking => exact absurd hholds not_holds_acquire
  | signing leaseId _ hactive _ =>
    have hsome : s.ledger a.idempotencyKey = some ⟨idempotencyBinding a, leaseId, none⟩ := hactive
    rw [hsome]; exact Option.some_ne_none _
  | completing leaseId _ _ hactive =>
    have hsome : s.ledger a.idempotencyKey = some ⟨idempotencyBinding a, leaseId, none⟩ := hactive
    rw [hsome]; exact Option.some_ne_none _
  | returned _ response => exact absurd hholds (not_holds_ret response)

/-- A step changes the record of one key, and calls the provider under that key only. -/
structure Touches (key : String) (s s' : SignerWorld) : Prop where
  ledger : ∀ other, other ≠ key → s'.ledger other = s.ledger other
  requests : ∀ d ∈ s'.requests, d ∈ s.requests ∨ d.idempotencyKey = key

theorem SignStage.other {key : String} (h : SignStage B a s p) (hgrows : s.ledger.Grows s'.ledger)
    (htouches : Touches key s s') (hholds : Holds B a p → a.idempotencyKey ≠ key) :
    SignStage B a s' p := by
  cases h with
  | rejected e => exact .rejected e
  | asking hok => exact .asking hok
  | signing leaseId hok hactive hunsigned =>
    have hne := hholds (.inl ⟨leaseId, rfl⟩)
    refine .signing leaseId hok ((htouches.ledger _ hne).trans hactive) fun d hd => ?_
    rcases htouches.requests d hd with hd | hkey
    · exact hunsigned d hd
    · rw [hkey]; exact hne.symm
  | completing leaseId response hok hactive =>
    have hne := hholds (.inr ⟨leaseId, response, rfl⟩)
    exact .completing leaseId response hok ((htouches.ledger _ hne).trans hactive)
  | returned leaseId response hok hdone =>
    obtain ⟨response', hkey, hkeep⟩ := hgrows _ _ hdone
    rw [hkeep response rfl] at hkey
    exact .returned leaseId response hok hkey

/-- The call once its response passed or failed the check of `assertSignerResponse`. -/
theorem signStage_checked {response : IsolatedSignerResponse} {next : Signing IsolatedSignerResponse}
    (h : SignStage B a s next) :
    SignStage B a s ((Prog.lift (assertSignerResponse B a response)).bind fun _ => next) := by
  cases assertSignerResponse B a response with
  | ok _ => exact h
  | error e => exact .rejected e

theorem signStage_sign : SignStage B a s (sign B a) := by
  cases hok : assertRequest B a with
  | ok _ =>
    have hsign : sign B a = acquireAndSign B a := by rw [sign, hok]; rfl
    rw [hsign]; exact .asking hok
  | error e =>
    have hsign : sign B a = .throw e := by rw [sign, hok]; rfl
    rw [hsign]; exact .rejected e

theorem not_holds_sign : ¬ Holds B a (sign B a) := by
  cases hok : assertRequest B a with
  | ok _ =>
    have hsign : sign B a = acquireAndSign B a := by rw [sign, hok]; rfl
    rw [hsign]; exact not_holds_acquire
  | error e =>
    have hsign : sign B a = .throw e := by rw [sign, hok]; rfl
    rw [hsign]; exact not_holds_throw e

theorem not_holds_checked {response : IsolatedSignerResponse} :
    ¬ Holds B a ((Prog.lift (assertSignerResponse B a response)).bind fun _ => .ret response) := by
  cases assertSignerResponse B a response with
  | ok _ => exact not_holds_ret response
  | error e => exact not_holds_throw e

theorem SigningInv.alone_of_free {request : ι → IsolatedSignerRequest}
    {procs : ι → Signing IsolatedSignerResponse} {i : ι} (h : SigningInv B request ⟨s, procs⟩)
    (hfree : s.ledger (request i).idempotencyKey = none) (j : ι) (_ : j ≠ i)
    (hj : Holds B (request j) (procs j)) :
    (request j).idempotencyKey ≠ (request i).idempotencyKey := by
  intro hkey
  have hsome : s.ledger (request j).idempotencyKey ≠ none := (h.stage j).active hj
  rw [hkey, hfree] at hsome
  exact hsome rfl

theorem signingInv_start {request : ι → IsolatedSignerRequest} :
    SigningInv B request (SignerSys.start B request) where
  stage _ := signStage_sign
  holder _ _ hi _ _ := absurd hi not_holds_sign
  once key := by simp [SignerSys.start]
  bound d hd := absurd hd List.not_mem_nil

/-- What the boundary asks for: an acquire or a completion of its own binding, or its digest under the
lease that it holds; never an abort. -/
theorem SigningInv.call {request : ι → IsolatedSignerRequest} {S : SignerSys ι} {i : ι} {q : SignerCall}
    {k : Except HiveGatewayError q.Response → Signing IsolatedSignerResponse}
    (h : SigningInv B request S) (hp : S.procs i = .call q k) :
    (∀ binding leaseId, q ≠ .abort binding leaseId) ∧
      (∀ binding, q = .acquire binding → assertRequest B (request i) = .ok ()) ∧
      ∀ d, q = .signDigest d → d = signDigestRequest (request i) ∧
        assertRequest B (request i) = .ok () ∧
        ∃ leaseId, S.shared.Active (idempotencyBinding (request i)) leaseId := by
  have hstage := h.stage i
  generalize S.procs i = prog at hp hstage
  cases hstage with
  | rejected e => cases hp
  | returned _ _ _ _ => cases hp
  | asking hok =>
    obtain ⟨rfl, -⟩ := Prog.call.inj hp
    exact ⟨nofun, fun _ _ => hok, nofun⟩
  | signing leaseId hok hactive _ =>
    obtain ⟨rfl, -⟩ := Prog.call.inj hp
    refine ⟨nofun, nofun, fun d hd => ?_⟩
    exact ⟨(SignerCall.signDigest.inj hd).symm, hok, leaseId, hactive⟩
  | completing leaseId response _ _ =>
    obtain ⟨rfl, -⟩ := Prog.call.inj hp
    exact ⟨nofun, nofun, nofun⟩

theorem sameRequest_of_binding (ha : assertRequest B a = .ok ()) (hb : assertRequest B b = .ok ())
    (h : idempotencyBinding a = idempotencyBinding b) : SameRequest a b := by
  simp only [assertRequest, bind_eq_ok, exists_unit] at ha hb
  obtain ⟨-, -, -, event, hevent, hpolicy⟩ := ha
  obtain ⟨-, -, -, event', hevent', hpolicy'⟩ := hb
  obtain ⟨htype, hfamily, authorization, -, hmatch, -, -, -, hjson⟩ := assertPolicy_eq_ok hpolicy
  obtain ⟨htype', hfamily', authorization', -, hmatch', -, -, -, hjson'⟩ :=
    assertPolicy_eq_ok hpolicy'
  simp only [idempotencyBinding, SignerIdempotencyBinding.mk.injEq] at h
  obtain ⟨hkey, hversion, hrole, haccount, hauthority, hpublic, hreference, hoperation, hhash,
    hdigest, hid⟩ := h
  -- the canonical operation determines the payload, and the payload its event
  have hsame := canonicalCustomJsonOperation_injective (hjson.trans (hoperation.trans hjson'.symm))
  have hpayload : a.canonicalPayload = b.canonicalPayload :=
    congrArg HiveCustomJsonOperation.json hsame
  rw [hpayload, hevent'] at hevent
  obtain rfl := Except.ok.inj hevent
  unfold SameRequest
  cases a
  cases b
  simp_all

/-! ### Steps -/

variable {request : ι → IsolatedSignerRequest} [DecidableEq ι]
  {procs : ι → Signing IsolatedSignerResponse}

theorem SigningInv.settle {i : ι} (h : SigningInv B request ⟨s, procs⟩)
    (hstage : SignStage B (request i) s p) (hholds : ¬ Holds B (request i) p) :
    SigningInv B request ⟨s, Function.update procs i p⟩ where
  stage j := by
    by_cases hj : j = i
    · subst hj
      change SignStage B (request j) s (Function.update procs j p j)
      rw [Function.update_self]; exact hstage
    · change SignStage B (request j) s (Function.update procs i p j)
      rw [Function.update_of_ne hj]; exact h.stage j
  holder j k hj hk hkey := by
    have hold : ∀ j, Holds B (request j) (Function.update procs i p j) →
        Holds B (request j) (procs j) := by
      intro j hj
      by_cases hji : j = i
      · subst hji; rw [Function.update_self] at hj; exact absurd hj hholds
      · rwa [Function.update_of_ne hji] at hj
    exact h.holder j k (hold j hj) (hold k hk) hkey
  once := h.once
  bound := h.bound

theorem SigningInv.advance {i : ι} (h : SigningInv B request ⟨s, procs⟩)
    (hstage : SignStage B (request i) s' p) (hgrows : s.ledger.Grows s'.ledger)
    (htouches : Touches (request i).idempotencyKey s s')
    (halone : ∀ j, j ≠ i → Holds B (request j) (procs j) →
      (request j).idempotencyKey ≠ (request i).idempotencyKey)
    (honce : ∀ key, (s'.requests.filter fun d => d.idempotencyKey = key).length ≤ 1)
    (hbound : ∀ d ∈ s'.requests, s'.ledger d.idempotencyKey ≠ none) :
    SigningInv B request ⟨s', Function.update procs i p⟩ where
  stage j := by
    by_cases hj : j = i
    · subst hj
      change SignStage B (request j) s' (Function.update procs j p j)
      rw [Function.update_self]; exact hstage
    · change SignStage B (request j) s' (Function.update procs i p j)
      rw [Function.update_of_ne hj]
      exact (h.stage j).other hgrows htouches (halone j hj)
  holder j k hj hk hkey := by
    have hold : ∀ j, j ≠ i → Holds B (request j) (Function.update procs i p j) →
        Holds B (request j) (procs j) := by
      intro j hji hj
      rwa [Function.update_of_ne hji] at hj
    by_cases hji : j = i
    · by_cases hki : k = i
      · rw [hji, hki]
      · exact absurd (hji ▸ hkey.symm) (halone k hki (hold k hki hk))
    · by_cases hki : k = i
      · exact absurd (hki ▸ hkey) (halone j hji (hold j hji hj))
      · exact h.holder j k (hold j hji hj) (hold k hki hk) hkey
  once := honce
  bound := hbound

theorem touches_write {key : String} {record : Option LedgerRecord} :
    Touches key s (s.write key record) :=
  ⟨fun _ hne => SignerWorld.write_of_ne hne, fun _ hd => .inl hd⟩

theorem bound_of_grows (hgrows : s.ledger.Grows s'.ledger) {key : String}
    (h : s.ledger key ≠ none) : s'.ledger key ≠ none := by
  obtain ⟨record, hrecord⟩ := Option.ne_none_iff_exists'.mp h
  obtain ⟨response, hkey, -⟩ := hgrows key record hrecord
  rw [hkey]
  exact Option.some_ne_none _

theorem SigningInv.write {i : ι} {record : LedgerRecord} (h : SigningInv B request ⟨s, procs⟩)
    (hgrows : s.ledger.Grows (s.write (request i).idempotencyKey (some record)).ledger)
    (hstage : SignStage B (request i) (s.write (request i).idempotencyKey (some record)) p)
    (halone : ∀ j, j ≠ i → Holds B (request j) (procs j) →
      (request j).idempotencyKey ≠ (request i).idempotencyKey) :
    SigningInv B request
      ⟨s.write (request i).idempotencyKey (some record), Function.update procs i p⟩ :=
  h.advance hstage hgrows touches_write halone h.once fun d hd => bound_of_grows hgrows (h.bound d hd)

/-- The answer to `acquire`. -/
theorem SigningInv.acquire {i : ι} {r : Except HiveGatewayError SignerIdempotencyAcquisition}
    {k : Except HiveGatewayError SignerIdempotencyAcquisition → Signing IsolatedSignerResponse}
    (h : SigningInv B request ⟨s, procs⟩) (hok : assertRequest B (request i) = .ok ())
    (hk : acquireAndSign B (request i) = .call (.acquire (idempotencyBinding (request i))) k)
    (hans : AcquireAnswer (idempotencyBinding (request i)) s r s') :
    SigningInv B request ⟨s', Function.update procs i (k r)⟩ := by
  obtain ⟨-, hk⟩ := Prog.call.inj hk
  obtain rfl := eq_of_heq hk
  cases hans with
  | acquired leaseId hfree =>
    have hunsigned : ∀ d ∈ s.requests, d.idempotencyKey ≠ (request i).idempotencyKey := by
      intro d hd hkey
      have hsome : s.ledger d.idempotencyKey ≠ none := h.bound d hd
      rw [hkey] at hsome
      exact hsome hfree
    have hfree : s.ledger (request i).idempotencyKey = none := hfree
    exact h.write (.bind hfree) (.signing leaseId hok SignerWorld.write_self hunsigned)
      (h.alone_of_free hfree)
  | conflict _ _ => exact h.settle (.rejected _) (not_holds_throw _)
  | @replay leaseId response hdone =>
    have hstage : SignStage B (request i) s (.ret response) := .returned leaseId response hok hdone
    exact h.settle (signStage_checked hstage) not_holds_checked
  | failed e => exact h.settle (.rejected _) (not_holds_throw _)
  | lost e leaseId hfree =>
    have hfree : s.ledger (request i).idempotencyKey = none := hfree
    exact h.write (.bind hfree) (.rejected _) (h.alone_of_free hfree)

theorem SigningInv.signDigest {i : ι} {leaseId : String} {r : Except HiveGatewayError String}
    {k : Except HiveGatewayError String → Signing IsolatedSignerResponse}
    (h : SigningInv B request ⟨s, procs⟩) (hprocs : procs i = signUnderLease B (request i) leaseId)
    (hok : assertRequest B (request i) = .ok ())
    (hactive : s.Active (idempotencyBinding (request i)) leaseId)
    (hunsigned : ∀ d ∈ s.requests, d.idempotencyKey ≠ (request i).idempotencyKey)
    (hk : signUnderLease B (request i) leaseId =
      .call (.signDigest (signDigestRequest (request i))) k) :
    SigningInv B request ⟨{ s with requests := s.requests ++ [signDigestRequest (request i)] },
      Function.update procs i (k r)⟩ := by
  obtain ⟨-, hk⟩ := Prog.call.inj hk
  obtain rfl := eq_of_heq hk
  have hsome : s.ledger (request i).idempotencyKey ≠ none := by
    have hsome : s.ledger (request i).idempotencyKey =
      some ⟨idempotencyBinding (request i), leaseId, none⟩ := hactive
    rw [hsome]; exact Option.some_ne_none _
  have hcases : ∀ d ∈ s.requests ++ [signDigestRequest (request i)], d ∈ s.requests ∨
      d.idempotencyKey = (request i).idempotencyKey := by
    intro d hd
    rcases List.mem_append.mp hd with hd | hd
    · exact .inl hd
    · rw [List.mem_singleton.mp hd]; exact .inr rfl
  refine h.advance ?_ (.refl _) ⟨fun _ _ => rfl, hcases⟩ ?_ ?_ ?_
  · cases r with
    | error e => exact .rejected _
    | ok signature => exact signStage_checked (.completing leaseId _ hok hactive)
  · intro j hj hholds hkey
    exact hj (h.holder j i hholds (.inl ⟨leaseId, hprocs⟩) hkey)
  · intro key
    change ((s.requests ++ [signDigestRequest (request i)]).filter _).length ≤ 1
    rw [List.filter_append, List.length_append]
    have hold : (s.requests.filter fun d => d.idempotencyKey = key).length ≤ 1 := h.once key
    by_cases hkey : (request i).idempotencyKey = key
    · -- the provider was not called under this key before
      have hnil : (s.requests.filter fun d => d.idempotencyKey = key) = [] := by
        rw [List.filter_eq_nil_iff]
        intro d hd
        rw [decide_eq_true_eq, ← hkey]
        exact hunsigned d hd
      have hlast := List.length_filter_le (fun d : SignDigestRequest => decide (d.idempotencyKey = key))
        [signDigestRequest (request i)]
      rw [List.length_singleton] at hlast
      rw [hnil, List.length_nil]
      omega
    · have hlast : ([signDigestRequest (request i)].filter fun d => d.idempotencyKey = key) = [] := by
        rw [List.filter_eq_nil_iff]
        intro d hd
        rw [List.mem_singleton.mp hd, decide_eq_true_eq]
        exact hkey
      rw [hlast, List.length_nil]
      omega
  · intro d hd
    rcases hcases d hd with hd | hkey
    · exact h.bound d hd
    · rw [hkey]; exact hsome

/-- The answer to `complete`. -/
theorem SigningInv.complete {i : ι} {leaseId : String} {response : IsolatedSignerResponse}
    {r : Except HiveGatewayError Unit}
    {k : Except HiveGatewayError Unit → Signing IsolatedSignerResponse}
    (h : SigningInv B request ⟨s, procs⟩)
    (hprocs : procs i = completeSigning (request i) leaseId response)
    (hok : assertRequest B (request i) = .ok ())
    (hk : completeSigning (request i) leaseId response =
      .call (.complete (idempotencyBinding (request i)) leaseId response) k)
    (hans : CompleteAnswer (idempotencyBinding (request i)) leaseId response s r s') :
    SigningInv B request ⟨s', Function.update procs i (k r)⟩ := by
  obtain ⟨-, hk⟩ := Prog.call.inj hk
  obtain rfl := eq_of_heq hk
  cases hans with
  | completed r hactive =>
    refine h.write (.complete hactive) ?_ fun j hj hholds hkey =>
      hj (h.holder j i hholds (.inr ⟨leaseId, response, hprocs⟩) hkey)
    cases r with
    | ok _ => exact .returned leaseId response hok SignerWorld.write_self
    | error e => exact .rejected _
  | failed e => exact h.settle (.rejected _) (not_holds_throw _)

theorem signingInv_step {S S' : SignerSys ι} {l : SignerLabel ι} (h : SigningInv B request S)
    (hl : SignerStep B request S l S') : SigningInv B request S' := by
  cases hl with
  | env hsame => obtain rfl := hsame; exact h
  | restart i => exact h.settle signStage_sign not_holds_sign
  | @answer s s' procs i q k r hp hans =>
    have hstage : SignStage B (request i) s (procs i) := h.stage i
    generalize hprog : procs i = prog at hstage
    rw [hprog] at hp
    cases hstage with
    | rejected e => cases hp
    | returned _ _ _ _ => cases hp
    | asking hok =>
      obtain ⟨rfl, -⟩ := Prog.call.inj hp
      exact h.acquire hok hp hans
    | signing leaseId hok hactive hunsigned =>
      obtain ⟨rfl, -⟩ := Prog.call.inj hp
      obtain rfl : s' = _ := hans
      exact h.signDigest hprog hok hactive hunsigned hp
    | completing leaseId response hok hactive =>
      obtain ⟨rfl, -⟩ := Prog.call.inj hp
      exact h.complete hprog hok hp hans

/-- **Records grow in every step**: the boundary never aborts. -/
theorem grows_step {S S' : SignerSys ι} {l : SignerLabel ι} (h : SigningInv B request S)
    (hl : SignerStep B request S l S') : S.shared.ledger.Grows S'.shared.ledger := by
  cases hl with
  | env hsame => obtain rfl := hsame; exact .refl _
  | restart i => exact .refl _
  | answer i hp hans => exact signerAnswer_grows (h.call hp).1 hans

theorem grows_run {S S' : SignerSys ι} {ts : List (Transition (SignerSys ι) (SignerLabel ι))}
    (h : Run (SignerStep B request) S ts S') (hinv : SigningInv B request S) :
    S.shared.ledger.Grows S'.shared.ledger :=
  h.related (R := fun S S' => S.shared.ledger.Grows S'.shared.ledger) (fun _ => .refl _)
    (fun _ _ _ => Ledger.Grows.trans)
    (fun _ _ _ hm hl => ⟨signingInv_step hm hl, grows_step hm hl⟩) hinv

theorem requests_run {S S' : SignerSys ι} {ts : List (Transition (SignerSys ι) (SignerLabel ι))}
    (h : Run (SignerStep B request) S ts S') :
    S'.shared.requests = S.shared.requests ++ providerCalls ts := by
  induction h with
  | refl => simp [providerCalls]
  | @snoc m s' ts l _ hl ih =>
    rw [providerCalls, List.filterMap_append, ← List.append_assoc, ← providerCalls, ← ih]
    cases hl with
    | env hsame => obtain rfl := hsame; simp
    | restart i => simp
    | @answer s s' procs i q k r hp hans =>
      cases q with
      | signDigest d => obtain rfl : s' = _ := hans; simp
      | acquire binding =>
        have hsame : s'.requests = s.requests := by cases hans <;> rfl
        simpa using hsame
      | complete binding leaseId response =>
        have hsame : s'.requests = s.requests := by cases hans <;> rfl
        simpa using hsame
      | abort binding leaseId =>
        have hsame : s'.requests = s.requests := by cases hans <;> rfl
        simpa using hsame


/-! ### Runs -/

theorem bound_of_invokes {S : SignerSys ι} {ts : List (Transition (SignerSys ι) (SignerLabel ι))}
    (h : Run (SignerStep B request) (SignerSys.start B request) ts S) {i : ι}
    (hi : Invokes ts i) : assertRequest B (request i) = .ok () ∧ ∃ leaseId response,
      S.shared.ledger (request i).idempotencyKey =
        some ⟨idempotencyBinding (request i), leaseId, response⟩ := by
  obtain ⟨t, ht, d, r, hlabel⟩ := hi
  obtain ⟨us, vs, -, hpre, hstep, hrest⟩ := h.split_of_mem ht
  have hinv := (hpre.invariant' (fun _ _ _ => signingInv_step) signingInv_start).1
  have hgrows := (grows_step hinv hstep).trans (grows_run hrest (signingInv_step hinv hstep))
  obtain ⟨pre, l, post⟩ := t
  obtain rfl := hlabel
  cases hstep with
  | answer _ hp _ =>
    obtain ⟨-, hok, leaseId, hactive⟩ := (hinv.call hp).2.2 d rfl
    obtain ⟨response, hkey, -⟩ := hgrows _ _ hactive
    exact ⟨hok, leaseId, response, hkey⟩

theorem bound_of_responds {S : SignerSys ι} {ts : List (Transition (SignerSys ι) (SignerLabel ι))}
    (h : Run (SignerStep B request) (SignerSys.start B request) ts S) {i : ι}
    {response : IsolatedSignerResponse} (hi : Responds ts i response) :
    assertRequest B (request i) = .ok () ∧ ∃ leaseId,
      S.shared.ledger (request i).idempotencyKey =
        some ⟨idempotencyBinding (request i), leaseId, some response⟩ := by
  obtain ⟨t, ht, -, hret⟩ := hi
  obtain ⟨us, vs, -, hpre, hstep, hrest⟩ := h.split_of_mem ht
  have hinv := (hpre.invariant' (fun _ _ _ => signingInv_step) signingInv_start).1
  have hpost := signingInv_step hinv hstep
  have hstage := hpost.stage i
  rw [hret] at hstage
  cases hstage with
  | returned leaseId _ hok hdone =>
    obtain ⟨response', hkey, hkeep⟩ := grows_run hrest hpost _ _ hdone
    rw [hkeep response rfl] at hkey
    exact ⟨hok, leaseId, hkey⟩

theorem bound_of_binds {S : SignerSys ι} {ts : List (Transition (SignerSys ι) (SignerLabel ι))}
    (h : Run (SignerStep B request) (SignerSys.start B request) ts S) {i : ι}
    (hi : Binds request ts i) : assertRequest B (request i) = .ok () ∧ ∃ leaseId response,
      S.shared.ledger (request i).idempotencyKey =
        some ⟨idempotencyBinding (request i), leaseId, response⟩ := by
  obtain ⟨t, ht, r, record, hlabel, hrecord, hbinding⟩ := hi
  obtain ⟨us, vs, -, hpre, hstep, hrest⟩ := h.split_of_mem ht
  have hinv := (hpre.invariant' (fun _ _ _ => signingInv_step) signingInv_start).1
  obtain ⟨response, hkey, -⟩ := grows_run hrest (signingInv_step hinv hstep) _ _ hrecord
  rw [hbinding] at hkey
  obtain ⟨pre, l, post⟩ := t
  obtain rfl := hlabel
  cases hstep with
  | answer _ hp _ => exact ⟨(hinv.call hp).2.1 _ rfl, record.leaseId, response, hkey⟩

/-- **One signature for a key**: any calls of the boundary, concurrent, retried or crashing, over a
ledger that meets its contract. -/
theorem signing_guarantees (B : SignerBoundary) (request : ι → IsolatedSignerRequest)
    {S : SignerSys ι} {ts : List (Transition (SignerSys ι) (SignerLabel ι))}
    (h : Run (SignerStep B request) (SignerSys.start B request) ts S) :
    SigningGuarantees request ts := by
  have hinv := (h.invariant' (fun _ _ _ => signingInv_step) signingInv_start).1
  constructor
  · intro key
    have hcalls : S.shared.requests = providerCalls ts := by
      rw [requests_run h, SignerSys.start, List.nil_append]
    rw [← hcalls]
    exact hinv.once key
  · intro i j hkey hbinds hdiffer
    obtain ⟨hoki, leaseId, response, hi⟩ := bound_of_binds h hbinds
    -- whoever gets through under the key has the binding of the record
    have hsame : ∀ leaseId' response', S.shared.ledger (request j).idempotencyKey =
        some ⟨idempotencyBinding (request j), leaseId', response'⟩ →
        assertRequest B (request j) = .ok () → False := by
      intro leaseId' response' hj hokj
      rw [hkey, hj] at hi
      have hbinding := congrArg LedgerRecord.binding (Option.some.inj hi)
      exact hdiffer (sameRequest_of_binding hoki hokj hbinding.symm)
    constructor
    · intro hinvokes
      obtain ⟨hokj, leaseId', response', hj⟩ := bound_of_invokes h hinvokes
      exact hsame leaseId' response' hj hokj
    · intro answer hresponds
      obtain ⟨hokj, leaseId', hj⟩ := bound_of_responds h hresponds
      exact hsame leaseId' (some answer) hj hokj
  · intro i j x y hkey hx hy
    obtain ⟨-, leaseId, hi⟩ := bound_of_responds h hx
    obtain ⟨-, leaseId', hj⟩ := bound_of_responds h hy
    rw [hkey, hj] at hi
    have hresponse := congrArg LedgerRecord.response (Option.some.inj hi)
    exact (Option.some.inj hresponse).symm
  · rintro us t vs i d r rfl hlabel
    obtain ⟨m, hus, hrest⟩ := h.of_append
    obtain ⟨rfl, hstep, hvs⟩ := hrest.of_cons
    have hpre := (hus.invariant' (fun _ _ _ => signingInv_step) signingInv_start).1
    have hpost := signingInv_step hpre hstep
    have hgrows := grows_step hpre hstep
    have hactive : d.idempotencyKey = (request i).idempotencyKey ∧ ∃ leaseId,
        t.pre.shared.Active (idempotencyBinding (request i)) leaseId := by
      obtain ⟨pre, l, post⟩ := t
      obtain rfl := hlabel
      cases hstep with
      | answer _ hp _ =>
        obtain ⟨rfl, -, leaseId, hactive⟩ := (hpre.call hp).2.2 d rfl
        exact ⟨rfl, leaseId, hactive⟩
    obtain ⟨hkey, leaseId, hactive⟩ := hactive
    obtain ⟨response, hbound, -⟩ := hgrows _ _ hactive
    refine ⟨leaseId, fun u hu => ?_⟩
    rw [hkey]
    rcases List.mem_cons.mp hu with rfl | hu
    · exact ⟨response, hbound⟩
    · -- from the provider call on, the ledger only grows
      obtain ⟨xs, ys, -, hxs, hu, -⟩ := hvs.split_of_mem hu
      have hmid := (hxs.invariant' (fun _ _ _ => signingInv_step) hpost).1
      have hlater := (grows_run hxs hpost).trans (grows_step hmid hu)
      obtain ⟨response', hbound', -⟩ := hlater _ _ hbound
      exact ⟨response', hbound'⟩

end

/-! ### A retried revocation -/

/-- A compact signature, as far as its form goes. -/
def revokedResponse : IsolatedSignerResponse :=
  ⟨String.ofList ('1' :: 'f' :: (List.replicate 64 ['0', '1']).flatten), "STM6issuerissuerissuer"⟩

theorem checked_revokedResponse (next : Signing IsolatedSignerResponse) :
    ((Prog.lift (assertSignerResponse exampleBoundary revokedRequest revokedResponse)).bind
      fun _ => next) = next := by
  have hresponse : (assertSignerResponse exampleBoundary revokedRequest revokedResponse).toOption =
    some () := by decide +kernel
  cases hchecked : assertSignerResponse exampleBoundary revokedRequest revokedResponse with
  | ok _ => rfl
  | error e => rw [hchecked] at hresponse; cases hresponse

/-- The ledger and the provider once the first call got its lease. -/
def reservedWorld (requests : List SignDigestRequest) : SignerWorld :=
  SignerWorld.write ⟨fun _ => none, requests⟩ "revocation:1"
    (some ⟨idempotencyBinding revokedRequest, "lease-1", none⟩)

/-- The ledger and the provider once the first call is completed. -/
def completedWorld : SignerWorld :=
  (reservedWorld [signDigestRequest revokedRequest]).write "revocation:1"
    (some ⟨idempotencyBinding revokedRequest, "lease-1", some revokedResponse⟩)

/-- The first call, then the second. -/
def bothCalls (first second : Signing IsolatedSignerResponse) : Bool → Signing IsolatedSignerResponse
  | true => first
  | false => second

/-- The two calls of the revocation. -/
abbrev RetryStep : SignerSys Bool → SignerLabel Bool → SignerSys Bool → Prop :=
  SignerStep exampleBoundary fun _ => revokedRequest

section

variable {first second next : Signing IsolatedSignerResponse} {w w' : SignerWorld} {q : SignerCall}
  {k : Except HiveGatewayError q.Response → Signing IsolatedSignerResponse}
  {r : Except HiveGatewayError q.Response}

theorem answer_first (hp : first = .call q k) (hans : signerAnswer q w r w') (hnext : k r = next) :
    RetryStep ⟨w, bothCalls first second⟩ (.answer true q r) ⟨w', bothCalls next second⟩ := by
  have hprocs : bothCalls next second = Function.update (bothCalls first second) true (k r) := by
    funext i; cases i
    · rfl
    · exact hnext.symm
  rw [hprocs]
  exact .answer true hp hans

theorem answer_second (hp : second = .call q k) (hans : signerAnswer q w r w') (hnext : k r = next) :
    RetryStep ⟨w, bothCalls first second⟩ (.answer false q r) ⟨w', bothCalls first next⟩ := by
  have hprocs : bothCalls first next = Function.update (bothCalls first second) false (k r) := by
    funext i; cases i
    · exact hnext.symm
    · rfl
  rw [hprocs]
  exact .answer false hp hans

end

/-- Two calls of the same request: one signs, the other one gets its response. -/
theorem signing_guarantees_retry :
    ∃ ts S, Run RetryStep (SignerSys.start exampleBoundary fun _ => revokedRequest) ts S ∧
      S.procs true = .ret revokedResponse ∧ S.procs false = .ret revokedResponse ∧
      SigningGuarantees (fun _ : Bool => revokedRequest) ts := by
  let asking := acquireAndSign exampleBoundary revokedRequest
  let signing := signUnderLease exampleBoundary revokedRequest "lease-1"
  let completing := completeSigning revokedRequest "lease-1" revokedResponse
  have hsign : sign exampleBoundary revokedRequest = asking := by
    rw [sign, assertRequest_revokedRequest]; rfl
  have hstart : SignerSys.start exampleBoundary (fun _ : Bool => revokedRequest) =
      ⟨⟨fun _ => none, []⟩, bothCalls asking asking⟩ := by
    rw [SignerSys.start, hsign]
    congr 1
    funext i; cases i <;> rfl
  have hfree : AcquireAnswer (idempotencyBinding revokedRequest) ⟨fun _ => none, []⟩
    (.ok (.acquired "lease-1")) (reservedWorld []) := .acquired "lease-1" rfl
  have hactive : CompleteAnswer (idempotencyBinding revokedRequest) "lease-1" revokedResponse
      (reservedWorld [signDigestRequest revokedRequest]) (.ok ()) completedWorld :=
    .completed (.ok ()) SignerWorld.write_self
  have hdone : AcquireAnswer (idempotencyBinding revokedRequest) completedWorld
    (.ok (.replay revokedResponse)) completedWorld := .replay SignerWorld.write_self
  have hacquire : RetryStep ⟨⟨fun _ => none, []⟩, bothCalls asking asking⟩
      (.answer true (.acquire (idempotencyBinding revokedRequest)) (.ok (.acquired "lease-1")))
      ⟨reservedWorld [], bothCalls signing asking⟩ := answer_first rfl hfree rfl
  have hprovider : RetryStep ⟨reservedWorld [], bothCalls signing asking⟩
      (.answer true (.signDigest (signDigestRequest revokedRequest)) (.ok revokedResponse.signature))
      ⟨reservedWorld [signDigestRequest revokedRequest], bothCalls completing asking⟩ :=
    answer_first rfl rfl (checked_revokedResponse completing)
  have hcomplete : RetryStep
      ⟨reservedWorld [signDigestRequest revokedRequest], bothCalls completing asking⟩
      (.answer true (.complete (idempotencyBinding revokedRequest) "lease-1" revokedResponse) (.ok ()))
      ⟨completedWorld, bothCalls (.ret revokedResponse) asking⟩ := answer_first rfl hactive rfl
  have hreplay : RetryStep ⟨completedWorld, bothCalls (.ret revokedResponse) asking⟩
      (.answer false (.acquire (idempotencyBinding revokedRequest)) (.ok (.replay revokedResponse)))
      ⟨completedWorld, bothCalls (.ret revokedResponse) (.ret revokedResponse)⟩ :=
    answer_second rfl hdone (checked_revokedResponse (.ret revokedResponse))
  have hrun := (((Run.single hacquire).snoc hprovider).snoc hcomplete).snoc hreplay
  rw [← hstart] at hrun
  exact ⟨_, _, hrun, rfl, rfl, signing_guarantees exampleBoundary _ hrun⟩

end HiveChameleon.Gateway
