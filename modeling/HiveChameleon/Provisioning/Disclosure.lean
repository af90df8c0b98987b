import HiveChameleon.Provisioning.Onboarding
import HiveChameleon.Provisioning.Safety

/-!
# Provisioning.Disclosure — jobs of identities that acknowledged the current disclosure

The API, the provisioning workers and the operators who publish disclosures, side by side.  The
design asks for an acknowledgment before any Google account creation, and `exchangeGoogle` names it
as the next step; `confirmUsername` does not look for one.  A job, and the sponsor call that comes
of it, follows an acknowledgment exactly when the client asked for it in that order.
-/

namespace HiveChameleon.Provisioning

open Gateway Lib
open Auth (IdentityDb PublicRecordDisclosureRow Current)

/-! ### The system -/

/-- A request to the API. -/
inductive OnboardingCall where
  | checkUsername (hiveUsername : String)
  | confirmUsername (externalIdentityId : Uuid) (hiveUsername idempotencyKey : String)
  | start (externalIdentityId : Uuid)
  | getStatus (externalIdentityId provisioningId : Uuid)
  | acknowledge (contentSha256 disclosureVersion : String)
      (externalIdentityId playerId : Option Uuid)
  | exchangeGoogle (authorizationCode codeVerifier redirectUri : String)

/-- The configuration of the API, and its two digests. -/
structure OnboardingSetup where
  config : Option OnboardingConfig
  scopedKey : Uuid → String → String
  subjectLookup : GoogleIdentity → String

/-- What a request runs; its answer is not looked at here. -/
def OnboardingCall.program (setup : OnboardingSetup) : OnboardingCall → Onboarder Unit
  | checkUsername name => do
    let _ ← OnboardingService.checkUsername name
  | confirmUsername identity name key => do
    let _ ← OnboardingService.confirmUsername setup.scopedKey setup.config identity name key
  | start identity => do
    let _ ← OnboardingService.start setup.config identity
  | getStatus identity provisioning => do
    let _ ← OnboardingService.getStatus identity provisioning
  | acknowledge sha version identity player => do
    let _ ← DisclosureService.acknowledge sha version identity player
  | exchangeGoogle code verifier redirect => do
    let _ ← Provisioning.exchangeGoogle setup.subjectLookup code verifier redirect

/-- The database, the open requests of the API, and the provisioning workers. -/
structure Platform (κ ι : Type) where
  store : IdentityDb
  requests : κ → Onboarder Unit
  workers : ι → Provisioner ProvisioningJob

inductive PlatformLabel (κ ι : Type) where
  | request (l : SysLabel OnboardingRequest OnboardingRequest.Response OnboardingError κ)
  | worker (l : SysLabel Request Request.Response Failure ι)
  | publish (row : PublicRecordDisclosureRow)
  | retire (disclosureVersion : String) (retiredAt : Timestamp)

/-- Operators publish a disclosure. -/
def publishDisclosure (row : PublicRecordDisclosureRow) (db : IdentityDb) : Option IdentityDb :=
  (db.publicRecordDisclosure.insert? row).map fun table => { db with publicRecordDisclosure := table }

/-- Operators retire a disclosure. -/
def retireDisclosure (version : String) (retiredAt : Timestamp) (db : IdentityDb) : IdentityDb :=
  { db with
    publicRecordDisclosure := db.publicRecordDisclosure.modify
      (fun row => row.disclosureVersion = version)
      ⟨fun row => { row with retiredAt := some retiredAt }, fun _ => rfl⟩ }

section Step

variable {κ ι : Type} [DecidableEq κ] [DecidableEq ι]

/-- One step: a request of the API or a worker goes on or is started over, or a disclosure is
published or retired.  Worker `i` processes the job `(jobs i).1`, started at `(jobs i).2`. -/
inductive PlatformStep (setup : OnboardingSetup) (calls : κ → OnboardingCall)
    (jobs : ι → Uuid × Timestamp) :
    Platform κ ι → PlatformLabel κ ι → Platform κ ι → Prop where
  | request {s s' : IdentityDb} {ps ps' : κ → Onboarder Unit} {ws : ι → Provisioner ProvisioningJob}
      {l : SysLabel OnboardingRequest OnboardingRequest.Response OnboardingError κ}
      (h : SysStep (fun _ _ => False) answerOnboarding (fun k => (calls k).program setup)
        ⟨s, ps⟩ l ⟨s', ps'⟩) :
    PlatformStep setup calls jobs ⟨s, ps, ws⟩ (.request l) ⟨s', ps', ws⟩
  | worker {s : IdentityDb} {db' : Db} {ps : κ → Onboarder Unit}
      {ws ws' : ι → Provisioner ProvisioningJob} {l : SysLabel Request Request.Response Failure ι}
      (h : SysStep (fun _ _ => False) answer (fun i => process (jobs i).1 (jobs i).2)
        ⟨s.toDb, ws⟩ l ⟨db', ws'⟩) :
    PlatformStep setup calls jobs ⟨s, ps, ws⟩ (.worker l) ⟨{ s with toDb := db' }, ps, ws'⟩
  | publish {s s' : IdentityDb} {ps : κ → Onboarder Unit} {ws : ι → Provisioner ProvisioningJob}
      {row : PublicRecordDisclosureRow} (h : publishDisclosure row s = some s') :
    PlatformStep setup calls jobs ⟨s, ps, ws⟩ (.publish row) ⟨s', ps, ws⟩
  | retire {s : IdentityDb} {ps : κ → Onboarder Unit} {ws : ι → Provisioner ProvisioningJob}
      (version : String) (retiredAt : Timestamp) :
    PlatformStep setup calls jobs ⟨s, ps, ws⟩ (.retire version retiredAt)
      ⟨retireDisclosure version retiredAt s, ps, ws⟩

/-- The API and the workers at the start. -/
def Platform.start (setup : OnboardingSetup) (calls : κ → OnboardingCall)
    (jobs : ι → Uuid × Timestamp) (store : IdentityDb) : Platform κ ι :=
  ⟨store, fun k => (calls k).program setup, fun i => process (jobs i).1 (jobs i).2⟩

end Step

/-! ### The property -/

/-- The identity has a job. -/
def HasJob (externalIdentityId : Uuid) (db : IdentityDb) : Prop :=
  ∃ job ∈ db.provisioning, job.externalIdentityId = externalIdentityId

/-- The identity has acknowledged the disclosure that is current at the time. -/
def Acknowledged (externalIdentityId : Uuid) (time : Timestamp) (db : IdentityDb) : Prop :=
  ∃ disclosure, Current time disclosure db ∧ ∃ row ∈ db.disclosureAcknowledgment,
    row.externalIdentityId = some externalIdentityId ∧
      row.disclosureVersion = disclosure.disclosureVersion

section Property

variable {κ ι : Type}

/-- The steps of a run of the platform. -/
abbrev PlatformTransition (κ ι : Type) := Transition (Platform κ ι) (PlatformLabel κ ι)

/-- Some step of `ts` created the job of an identity that had acknowledged the disclosure current
at the time. -/
def AcknowledgedBefore (ts : List (PlatformTransition κ ι)) (externalIdentityId : Uuid)
    (time : Timestamp) : Prop :=
  ∃ t ∈ ts, ¬ HasJob externalIdentityId t.pre.store ∧ HasJob externalIdentityId t.post.store ∧
    Acknowledged externalIdentityId time t.pre.store

theorem AcknowledgedBefore.mono {ts us : List (PlatformTransition κ ι)} {identity : Uuid}
    {time : Timestamp} (h : AcknowledgedBefore ts identity time) (hsub : ts ⊆ us) :
    AcknowledgedBefore us identity time := by
  obtain ⟨t, ht, hrest⟩ := h
  exact ⟨t, hsub ht, hrest⟩

/-- **Acknowledged before use**: every job, and every account creation that a worker asks
for, is of an identity that had acknowledged. -/
structure AcknowledgedFirst (ts : List (PlatformTransition κ ι)) : Prop where
  jobs : ∀ before t after, ts = before ++ t :: after → ∀ job ∈ t.post.store.provisioning,
    AcknowledgedBefore (before ++ [t]) job.externalIdentityId job.usernameConfirmedAt
  calls : ∀ before t after, ts = before ++ t :: after →
    ∀ i key keys policy sponsor username r,
      t.label = .worker (.answer i (.createClaimedAccount key keys policy sponsor username) r) →
        ∃ job ∈ t.pre.store.provisioning, key = job.idempotencyKey ++ ":account" ∧
          username = job.requestedHiveUsername ∧
          AcknowledgedBefore before job.externalIdentityId job.usernameConfirmedAt

/-- The confirmation of this step, if it creates a job, is of an identity that has acknowledged the
current disclosure. -/
def Acknowledging (t : PlatformTransition κ ι) : Prop :=
  ∀ k input r, t.label = .request (.answer k (.confirmUsername input) r) →
    ¬ HasJob input.externalIdentityId t.pre.store → HasJob input.externalIdentityId t.post.store →
      Acknowledged input.externalIdentityId input.now t.pre.store

end Property

/-! ### Jobs are kept -/

/-- What never changes in the jobs. -/
def jobTerms (db : Db) : List JobTerms := db.provisioning.rows.map (·.terms)

/-- Jobs stay, in their order, and new ones come last. -/
def JobsKept (db db' : Db) : Prop := jobTerms db <+: jobTerms db'

section Jobs

variable {db db' : Db} {s s' : IdentityDb}

theorem JobsKept.of_eq (h : jobTerms db' = jobTerms db) : JobsKept db db' := by
  refine ⟨[], ?_⟩
  rw [List.append_nil, h]

theorem JobsKept.trans {db'' : Db} (h : JobsKept db db') (h' : JobsKept db' db'') :
    JobsKept db db'' :=
  List.IsPrefix.trans h h'

theorem hasJob_iff {externalIdentityId : Uuid} :
    HasJob externalIdentityId s ↔
      ∃ terms ∈ jobTerms s.toDb, terms.externalIdentityId = externalIdentityId := by
  constructor
  · rintro ⟨job, hjob, hidentity⟩
    exact ⟨job.terms, List.mem_map_of_mem hjob, hidentity⟩
  · rintro ⟨terms, hterms, hidentity⟩
    obtain ⟨job, hjob, rfl⟩ := List.mem_map.mp hterms
    exact ⟨job, hjob, hidentity⟩

theorem HasJob.kept {externalIdentityId : Uuid} (h : HasJob externalIdentityId s)
    (hkept : JobsKept s.toDb s'.toDb) : HasJob externalIdentityId s' := by
  obtain ⟨terms, hterms, hidentity⟩ := hasJob_iff.mp h
  exact hasJob_iff.mpr ⟨terms, hkept.subset hterms, hidentity⟩

theorem jobTerms_modify {p : ProvisioningRow → Prop} [DecidablePred p]
    {set : Table.Assignment ProvisioningRow.id} (hset : ∀ row, (set row).terms = row.terms)
    (hrows : db'.provisioning = db.provisioning.modify p set) : jobTerms db' = jobTerms db := by
  unfold jobTerms
  rw [hrows]
  show (db.provisioning.rows.map (Table.updated p set)).map _ = _
  rw [List.map_map]
  exact List.map_congr_left fun row _ => Table.updated_eq (g := fun row => row.terms) hset row

theorem jobTerms_transition {id : Uuid} {states : List ProvisioningState}
    {set : Table.Assignment ProvisioningRow.id} (hok : transition id states set db = .ok db')
    (hset : ∀ row, (set row).terms = row.terms) : jobTerms db' = jobTerms db := by
  obtain ⟨-, rfl⟩ := transition_eq_ok.mp hok
  exact jobTerms_modify hset rfl

theorem jobTerms_answer {q : Request} {r : Except Failure q.Response} (h : answer q db r db') :
    jobTerms db' = jobTerms db := by
  have houtcome : ∀ {result : Except Failure Db} {u : Except Failure Unit},
      CallOutcome result db u db' → (result = .ok db' → jobTerms db' = jobTerms db) →
        jobTerms db' = jobTerms db := by
    intro result u h hok
    rcases CallOutcome.db_cases h with h | ⟨rfl, -⟩
    · exact hok h
    · rfl
  cases q with
  | getJobForUpdate id => rw [h.1]
  | getKeys id => rw [h.1]
  | saveKeys id keys time => rw [h.1]
  | generateAuthorityKeys key id roles => exact congrArg jobTerms h
  | createClaimedAccount key keys policy sponsor username => exact congrArg jobTerms h
  | delegateInitialResourceCredits key policy sponsor username => exact congrArg jobTerms h
  | verifyReady keys sponsor username => exact congrArg jobTerms h
  | saveKeysCommit id added time =>
    refine houtcome h fun hok => ?_
    simp only [saveKeysCommit, bind_eq_ok] at hok
    obtain ⟨table, -, hok⟩ := hok
    have hsame := jobTerms_transition hok fun _ => rfl
    exact hsame
  | markAccountCreationPending id reference time =>
    refine houtcome h fun hok => ?_
    simp only [markAccountCreationPending, bind_eq_ok, exists_unit] at hok
    exact jobTerms_transition hok.2 fun _ => rfl
  | markAccountCreated id transactionId time =>
    refine houtcome h fun hok => ?_
    simp only [markAccountCreated, bind_eq_ok, exists_unit] at hok
    exact jobTerms_transition hok.2 fun _ => rfl
  | markRcDelegationPending id time =>
    exact houtcome h fun hok => jobTerms_transition hok fun _ => rfl
  | markRcDelegated id reference time =>
    refine houtcome h fun hok => ?_
    simp only [markRcDelegated, bind_eq_ok, exists_unit] at hok
    exact jobTerms_transition hok.2 fun _ => rfl
  | markRetryableFailure id code time => exact houtcome h fun hok => (by cases hok)
  | markReady id time =>
    obtain ⟨playerId, h⟩ := h
    refine houtcome h fun hok => ?_
    unfold markReady at hok
    split at hok
    · cases hok
    · rename_i row hfind
      by_cases hready : row.state = .ready
      · rw [if_pos hready] at hok
        rw [← Except.ok.inj hok]
      · rw [if_neg hready] at hok
        obtain ⟨player, set, activate, link, hset, -, -, hjobs, -⟩ := finalize_eq_ok hok
        exact jobTerms_modify (fun row => (hset row).2.2) hjobs

/-- A job that `confirmUsername` creates is the first of its identity. -/
theorem confirmUsername_spec {id : Uuid} {createdAt : Timestamp} {input : ConfirmInput}
    {status : ProvisioningStatus} (hok : confirmUsername id createdAt input db = .ok (status, db')) :
    db' = db ∨ (∀ row ∈ db.provisioning, row.externalIdentityId ≠ input.externalIdentityId) ∧
      db'.provisioning.rows = db.provisioning.rows ++ [newJob id createdAt input] := by
  simp only [confirmUsername, bind_eq_ok, exists_unit] at hok
  obtain ⟨-, hok⟩ := hok
  split at hok
  · simp only [bind_eq_ok, exists_unit, pure_eq_ok, Prod.mk.injEq] at hok
    exact .inl hok.2.2.symm
  · rename_i hnone
    simp only [bind_eq_ok, exists_unit, pure_eq_ok, Prod.mk.injEq, Table.insert_eq_ok] at hok
    obtain ⟨-, table, ⟨-, hrows⟩, -, rfl⟩ := hok
    refine .inr ⟨fun row hrow hidentity => ?_, hrows⟩
    have hnot := List.find?_eq_none.mp hnone row hrow
    exact hnot (decide_eq_true hidentity)

theorem acknowledge_keeps {id : Uuid} {input : Auth.AcknowledgmentInput}
    {acknowledgment : Option Auth.DisclosureAcknowledgment}
    (hok : Auth.acknowledgeCurrentDisclosure id input s = .ok (acknowledgment, s')) :
    s'.provisioning = s.provisioning := by
  unfold Auth.acknowledgeCurrentDisclosure at hok
  split at hok
  · simp only [bind_eq_ok, pure_eq_ok, Prod.mk.injEq] at hok
    obtain ⟨db, hinsert, -, rfl⟩ := hok
    simp only [Auth.insertAcknowledgment, bind_eq_ok, exists_unit] at hinsert
    obtain ⟨-, hinsert⟩ := hinsert
    split at hinsert
    · rw [← pure_eq_ok.mp hinsert]
    · split at hinsert
      · rw [← pure_eq_ok.mp hinsert]
      · rw [← pure_eq_ok.mp hinsert]
  · rw [← (Prod.mk.inj (Except.ok.inj hok)).2]

theorem upsertGoogleIdentity_keeps {id : Uuid} {issuer hash : String} {time : Timestamp}
    {record : Except Failure Auth.ExternalIdentityRecord}
    (hok : Auth.upsertGoogleIdentity id issuer hash time s = .ok (record, s')) :
    s'.provisioning = s.provisioning := by
  simp only [Auth.upsertGoogleIdentity, Auth.upsertIdentity, bind_eq_ok, exists_unit, pure_eq_ok,
    Prod.exists, Prod.mk.injEq] at hok
  obtain ⟨identity, db, ⟨-, -, hupsert⟩, -, rfl⟩ := hok
  split at hupsert
  · simp only [bind_eq_ok, exists_unit, pure_eq_ok, Prod.mk.injEq] at hupsert
    rw [← hupsert.2.2]
  · simp only [bind_eq_ok, pure_eq_ok, Prod.mk.injEq] at hupsert
    obtain ⟨table, -, -, rfl⟩ := hupsert
    rfl

theorem jobTerms_answerOnboarding {q : OnboardingRequest}
    {r : Except OnboardingError q.Response} (h : answerOnboarding q s r s') :
    jobTerms s'.toDb = jobTerms s.toDb ∨ ∃ input terms, q = .confirmUsername input ∧
      ¬ HasJob input.externalIdentityId s ∧ terms.externalIdentityId = input.externalIdentityId ∧
      terms.usernameConfirmedAt = input.now ∧
      jobTerms s'.toDb = jobTerms s.toDb ++ [terms] := by
  cases q with
  | newDate => exact .inl (by rw [h.1])
  | usernameExists name => exact .inl (by rw [show s' = s from h])
  | exchange code verifier redirect => exact .inl (by rw [show s' = s from h])
  | isUsernamePending name => exact .inl (by rw [h.1])
  | findForIdentity identity => exact .inl (by rw [h.1])
  | findByIdForIdentity id identity => exact .inl (by rw [h.1])
  | getCurrentDisclosure time => exact .inl (by rw [h.1])
  | acknowledgeCurrentDisclosure input =>
    obtain ⟨id, h⟩ := h
    rcases StoreOutcome.db_cases h with ⟨_, hok⟩ | ⟨rfl, -⟩
    · exact .inl (by unfold jobTerms; rw [acknowledge_keeps hok])
    · exact .inl rfl
  | upsertGoogleIdentity issuer hash time =>
    obtain ⟨id, _, h, -⟩ := h
    rcases StoreOutcome.db_cases h with ⟨_, hok⟩ | ⟨rfl, -⟩
    · exact .inl (by unfold jobTerms; rw [upsertGoogleIdentity_keeps hok])
    · exact .inl rfl
  | confirmUsername input =>
    obtain ⟨id, createdAt, h⟩ := h
    rcases StoreOutcome.db_cases h with ⟨status, hok⟩ | ⟨rfl, -⟩
    swap
    · exact .inl rfl
    simp only [storeConfirmation, bind_eq_ok, pure_eq_ok, Prod.exists, Prod.mk.injEq] at hok
    obtain ⟨_, db, hok, -, rfl⟩ := hok
    rcases confirmUsername_spec hok with rfl | ⟨hfirst, hrows⟩
    · exact .inl rfl
    · refine .inr ⟨input, (newJob id createdAt input).terms, rfl, ?_, rfl, rfl, ?_⟩
      · rintro ⟨job, hjob, hidentity⟩
        exact hfirst job hjob hidentity
      · show db.provisioning.rows.map _ = _
        rw [hrows, List.map_append]
        rfl

end Jobs

/-! ### The workers -/

/-- A request to create an account says what a stored job says. -/
def AccountOfJob (q : Request) (db : Db) : Prop :=
  ∀ key keys policy sponsor username, q = .createClaimedAccount key keys policy sponsor username →
    ∃ terms ∈ jobTerms db, key = terms.idempotencyKey ++ ":account" ∧
      username = terms.requestedHiveUsername

/-- A request to create an account says what the job that was read says. -/
def AccountOf (j : ProvisioningJob) (q : Request) : Prop :=
  ∀ key keys policy sponsor username, q = .createClaimedAccount key keys policy sponsor username →
    key = j.idempotencyKey ++ ":account" ∧ username = j.requestedHiveUsername

section Workers

variable {j : ProvisioningJob} {now : Timestamp} {id : Uuid} {db : Db}

theorem accountOf_of_ne {q : Request}
    (h : ∀ key keys policy sponsor username,
      q ≠ .createClaimedAccount key keys policy sponsor username) : AccountOf j q :=
  fun key keys policy sponsor username heq => absurd heq (h key keys policy sponsor username)

theorem ensureKeys_only : (ensureKeys j now).Only (AccountOf j) := by
  refine Prog.only_bind (Prog.only_request (accountOf_of_ne ?_)) fun existing => ?_
  · intros; simp
  refine Prog.only_ite (Prog.only_bind Prog.only_lift fun _ => Prog.only_ret) ?_
  refine Prog.only_ite Prog.only_throw ?_
  refine Prog.only_bind (Prog.only_request (accountOf_of_ne ?_)) fun generated => ?_
  · intros; simp
  refine Prog.only_bind Prog.only_lift fun _ => Prog.only_bind ?_ fun _ => Prog.only_ret
  refine Prog.only_bind (Prog.only_request (accountOf_of_ne ?_)) fun added => ?_
  · intros; simp
  refine Prog.only_request (accountOf_of_ne ?_)
  intros; simp

theorem createAccount_only {keys : KeyMap} : (createAccount j keys now).Only (AccountOf j) := by
  refine Prog.only_bind (Prog.only_request ?_) fun account => ?_
  · intro key keys policy sponsor username heq
    obtain ⟨rfl, -, -, -, rfl⟩ := Request.createClaimedAccount.inj heq
    exact ⟨rfl, rfl⟩
  refine Prog.only_bind (Prog.only_request (accountOf_of_ne ?_)) fun _ => ?_
  · intros; simp
  refine Prog.only_bind (Prog.only_request (accountOf_of_ne ?_)) fun verification => ?_
  · intros; simp
  refine Prog.only_ite Prog.only_throw (Prog.only_request (accountOf_of_ne ?_))
  intros; simp

theorem delegateCredits_only : (delegateCredits j now).Only (AccountOf j) := by
  refine Prog.only_bind (Prog.only_request (accountOf_of_ne ?_)) fun _ => ?_
  · intros; simp
  refine Prog.only_bind (Prog.only_request (accountOf_of_ne ?_)) fun _ => ?_
  · intros; simp
  refine Prog.only_request (accountOf_of_ne ?_)
  intros; simp

theorem attempt_only :
    ((attempt j now).orElse (recordFailure j now)).Only (AccountOf j) := by
  refine Prog.only_orElse ?_ fun e => ?_
  · refine Prog.only_bind ensureKeys_only fun references => ?_
    refine Prog.only_bind Prog.only_lift fun keys => ?_
    refine Prog.only_bind (Prog.only_ite createAccount_only Prog.only_ret) fun _ => ?_
    refine Prog.only_bind (Prog.only_ite delegateCredits_only Prog.only_ret) fun _ => ?_
    refine Prog.only_bind (Prog.only_request (accountOf_of_ne ?_)) fun verification => ?_
    · intros; simp
    refine Prog.only_ite Prog.only_throw ?_
    refine Prog.only_bind (Prog.only_request (accountOf_of_ne ?_)) fun _ => Prog.only_ret
    intros; simp
  · refine Prog.only_bind (Prog.only_request (accountOf_of_ne ?_)) fun _ => Prog.only_throw
    intros; simp

/-- Safety of a worker: it keeps the jobs, and creates accounts of stored jobs only. -/
abbrev WorkerSafe (p : Provisioner ProvisioningJob) (db : Db) : Prop :=
  p.Safe JobsKept answer (fun q db db' => JobsKept db db' ∧ AccountOfJob q db) (fun _ _ => True) db

theorem process_worker : WorkerSafe (process id now) db := by
  refine Prog.safe_request_bind fun db₁ _ r db₂ hanswer => ?_
  have hkept : JobsKept db₁ db₂ := .of_eq (jobTerms_answer hanswer)
  refine ⟨⟨hkept, fun _ _ _ _ _ heq => by cases heq⟩, ?_⟩
  cases r with
  | error e => trivial
  | ok found =>
    obtain ⟨hdb, hfound | hlost⟩ := hanswer
    swap
    · cases hlost
    obtain rfl : found = getJobForUpdate id db₁ := Except.ok.inj hfound
    cases hfind : db₁.provisioning.find? id with
    | none =>
      have hnone : getJobForUpdate id db₁ = none := by
        unfold getJobForUpdate
        rw [hfind]
        rfl
      rw [hnone]
      trivial
    | some row =>
      have hsome : getJobForUpdate id db₁ = some (mapJob row) := by
        unfold getJobForUpdate
        rw [hfind]
        rfl
      rw [hsome]
      show (if _ then _ else _ : Provisioner ProvisioningJob).Safe _ _ _ _ db₂
      by_cases hopen : (mapJob row).state = .ready ∨ (mapJob row).state = .terminalFailed
      · rw [if_pos hopen]
        trivial
      rw [if_neg hopen]
      -- the job that was read stays stored
      have hstored : row.terms ∈ jobTerms db₂ := by
        rw [hdb]
        exact List.mem_map_of_mem (Table.find?_eq_some.mp hfind).1
      refine Prog.safe_mono (Prog.safe_of_only (P := AccountOf (mapJob row))
        (I := fun db => row.terms ∈ jobTerms db) ?_ ?_ hstored attempt_only) fun _ _ _ => trivial
      · exact fun a b hab ha => hab.subset ha
      · intro q a r b hq ha hanswer
        have hkept : JobsKept a b := .of_eq (jobTerms_answer hanswer)
        refine ⟨⟨hkept, fun key keys policy sponsor username heq => ?_⟩, hkept.subset ha⟩
        obtain ⟨hkey, husername⟩ := hq key keys policy sponsor username heq
        exact ⟨row.terms, ha, hkey, husername⟩

end Workers

/-! ### Runs -/

section Runs

variable {κ ι : Type} [DecidableEq κ] [DecidableEq ι] {setup : OnboardingSetup}
variable {calls : κ → OnboardingCall} {jobs : ι → Uuid × Timestamp} {store : IdentityDb}
variable {S S' : Platform κ ι} {l : PlatformLabel κ ι} {ts : List (PlatformTransition κ ι)}

/-- **One step** keeps the jobs, or is a confirmation that creates the first job of an identity. -/
theorem PlatformStep.jobs_cases (h : PlatformStep setup calls jobs S l S') :
    jobTerms S'.store.toDb = jobTerms S.store.toDb ∨ ∃ k input r terms,
      l = .request (.answer k (.confirmUsername input) r) ∧
      ¬ HasJob input.externalIdentityId S.store ∧
      terms.externalIdentityId = input.externalIdentityId ∧ terms.usernameConfirmedAt = input.now ∧
      jobTerms S'.store.toDb = jobTerms S.store.toDb ++ [terms] := by
  cases h with
  | request h =>
    cases h with
    | env h => exact h.elim
    | restart k => exact .inl rfl
    | @answer _ _ _ k q f r hp h =>
      rcases jobTerms_answerOnboarding h with hsame | ⟨input, terms, rfl, hrest⟩
      · exact .inl hsame
      · exact .inr ⟨k, input, r, terms, rfl, hrest⟩
  | worker h =>
    cases h with
    | env h => exact h.elim
    | restart i => exact .inl rfl
    | answer i hp h => exact .inl (jobTerms_answer h)
  | @publish s s' ps ws row h =>
    obtain ⟨table, -, rfl⟩ := Option.map_eq_some_iff.mp h
    exact .inl rfl
  | retire version retiredAt => exact .inl rfl

theorem PlatformStep.kept (h : PlatformStep setup calls jobs S l S') :
    JobsKept S.store.toDb S'.store.toDb := by
  rcases h.jobs_cases with hsame | ⟨k, input, r, terms, -, -, -, -, hnew⟩
  · exact .of_eq hsame
  · unfold JobsKept
    rw [hnew]
    exact List.prefix_append _ _

theorem run_kept (hrun : Run (PlatformStep setup calls jobs) S ts S') :
    JobsKept S.store.toDb S'.store.toDb :=
  (hrun.invariant' (I := fun m => JobsKept S.store.toDb m.store.toDb)
    (fun _ _ _ hm hl => hm.trans hl.kept) (.of_eq rfl)).1

theorem run_at {before after : List (PlatformTransition κ ι)} {t : PlatformTransition κ ι}
    (hrun : Run (PlatformStep setup calls jobs) S (before ++ t :: after) S') :
    Run (PlatformStep setup calls jobs) S before t.pre ∧
      PlatformStep setup calls jobs t.pre t.label t.post ∧
      Run (PlatformStep setup calls jobs) S (before ++ [t]) t.post := by
  obtain ⟨m, hbefore, hrest⟩ := hrun.of_append
  obtain ⟨rfl, hstep, -⟩ := hrest.of_cons
  exact ⟨hbefore, hstep, hbefore.snoc hstep⟩

theorem jobs_acknowledged (hempty : jobTerms S.store.toDb = [])
    (hrun : Run (PlatformStep setup calls jobs) S ts S') (hall : ∀ t ∈ ts, Acknowledging t) :
    ∀ terms ∈ jobTerms S'.store.toDb,
      AcknowledgedBefore ts terms.externalIdentityId terms.usernameConfirmedAt := by
  induction hrun with
  | refl =>
    intro terms hterms
    rw [hempty] at hterms
    exact absurd hterms List.not_mem_nil
  | @snoc m S' ts l hr hl ih =>
    intro terms hterms
    have hold := ih fun t ht => hall t (List.mem_append_left _ ht)
    rcases hl.jobs_cases with hsame | ⟨k, input, r, new, rfl, hfirst, hidentity, htime, hnew⟩
    · rw [hsame] at hterms
      exact (hold terms hterms).mono (List.subset_append_left _ _)
    · rw [hnew] at hterms
      rcases List.mem_append.mp hterms with hterms | hterms
      · exact (hold terms hterms).mono (List.subset_append_left _ _)
      · -- the job that this confirmation creates
        obtain rfl := List.mem_singleton.mp hterms
        have hjob : HasJob input.externalIdentityId S'.store := by
          refine hasJob_iff.mpr ⟨terms, ?_, hidentity⟩
          rw [hnew]
          exact List.mem_append_right _ (List.mem_singleton_self _)
        rw [hidentity, htime]
        refine ⟨_, List.mem_append_right _ (List.mem_singleton_self _), hfirst, hjob, ?_⟩
        exact hall _ (List.mem_append_right _ (List.mem_singleton_self _)) k input r rfl hfirst hjob

theorem workers_safe (hrun : Run (PlatformStep setup calls jobs)
      (Platform.start setup calls jobs store) ts S) :
    ∀ i, WorkerSafe (S.workers i) S.store.toDb := by
  refine (hrun.invariant' (I := fun m => ∀ i, WorkerSafe (m.workers i) m.store.toDb) ?_ ?_).1
  · intro m l m' hm hl
    have hkept := hl.kept
    have hothers : ∀ i, WorkerSafe (m.workers i) m'.store.toDb := fun i =>
      Prog.safe_env (fun _ _ _ => .trans) (fun _ _ _ _ h => h) hkept (hm i)
    cases hl with
    | request h => exact hothers
    | publish h => exact hothers
    | retire version retiredAt => exact hothers
    | @worker s db' ps ws ws' l h =>
      have hstep : SysStep JobsKept answer (fun i => process (jobs i).1 (jobs i).2)
          ⟨s.toDb, ws⟩ l ⟨db', ws'⟩ := by
        cases h with
        | env h => exact h.elim
        | answer i hp h => exact .answer i hp h
        | restart i => exact .restart i
      have htrans : ∀ a b c : Db, JobsKept a b → JobsKept b c → JobsKept a c := fun _ _ _ => .trans
      have hpre : SysSafe JobsKept answer (fun q db db' => JobsKept db db' ∧ AccountOfJob q db)
          (fun _ => True) (fun _ _ => True) ⟨s.toDb, ws⟩ := ⟨trivial, hm⟩
      have hsafe := (sysSafe_step htrans (fun _ _ _ _ h => h) (fun _ _ _ h => h) (fun _ _ _ _ h => h)
        (fun _ _ _ _ _ _ h => h.1) (fun _ _ _ => process_worker) (fun _ => .of_eq rfl) hpre hstep).1
      exact hsafe.2
  · exact fun i => process_worker

/-- **An account creation** that a worker asks for is of a stored job. -/
theorem account_of_job (hrun : Run (PlatformStep setup calls jobs)
      (Platform.start setup calls jobs store) ts S)
    (hstep : PlatformStep setup calls jobs S l S') {i : ι} {q : Request}
    {r : Except Failure q.Response} (hlabel : l = .worker (.answer i q r)) :
    AccountOfJob q S.store.toDb := by
  have hsafe := workers_safe hrun
  subst hlabel
  cases hstep with
  | @worker s db' ps ws ws' _ h =>
    cases h with
    | @answer _ _ _ _ _ f _ hp h =>
      have hcall := hsafe i
      dsimp only at hcall
      rw [hp] at hcall
      exact (hcall s.toDb (.of_eq rfl) r db' h).1.2

/-- **Jobs follow acknowledgments exactly when confirmations do**: over every run of the API, the
workers and the operators that starts without jobs. -/
theorem acknowledgedFirst_iff (hempty : jobTerms store.toDb = [])
    (hrun : Run (PlatformStep setup calls jobs) (Platform.start setup calls jobs store) ts S) :
    AcknowledgedFirst ts ↔ ∀ t ∈ ts, Acknowledging t := by
  constructor
  · intro h t ht k input r hlabel hfirst hjob
    obtain ⟨before, after, rfl⟩ := List.append_of_mem ht
    obtain ⟨hbefore, hstep, -⟩ := run_at hrun
    rcases hstep.jobs_cases with hsame | ⟨k', input', r', terms, hlabel', -, hidentity, htime, hnew⟩
    · rw [hasJob_iff, hsame, ← hasJob_iff] at hjob
      exact absurd hjob hfirst
    · have hinput : input' = input := by
        have heq := hlabel.symm.trans hlabel'
        simp only [PlatformLabel.request.injEq, SysLabel.answer.injEq,
          OnboardingRequest.confirmUsername.injEq] at heq
        exact heq.2.1.symm
      subst hinput
      have hterms : terms ∈ jobTerms t.post.store.toDb := by
        rw [hnew]
        exact List.mem_append_right _ (List.mem_singleton_self _)
      obtain ⟨job, hmem, rfl⟩ := List.mem_map.mp hterms
      obtain ⟨t', ht', hfirst', hjob', hacknowledged⟩ := h.jobs before t after rfl job hmem
      have hidentity : job.externalIdentityId = input'.externalIdentityId := hidentity
      have htime : job.usernameConfirmedAt = input'.now := htime
      rw [hidentity] at hfirst' hjob'
      rw [hidentity, htime] at hacknowledged
      rcases List.mem_append.mp ht' with ht' | ht'
      · -- an earlier step cannot have created it: the job would still be there
        obtain ⟨us, vs, -, -, -, htail⟩ := hbefore.split_of_mem ht'
        exact absurd (hjob'.kept (run_kept htail)) hfirst
      · rw [List.mem_singleton.mp ht'] at hacknowledged
        exact hacknowledged
  · intro hall
    refine ⟨fun before t after hsplit job hjob => ?_, ?_⟩
    · subst hsplit
      obtain ⟨-, -, hrun'⟩ := run_at hrun
      refine jobs_acknowledged hempty hrun' (fun t' ht' => hall t' ?_) job.terms
        (List.mem_map_of_mem hjob)
      rw [← List.singleton_append, ← List.append_assoc]
      exact List.mem_append_left _ ht'
    · intro before t after hsplit i key keys policy sponsor username r hlabel
      subst hsplit
      obtain ⟨hbefore, hstep, -⟩ := run_at hrun
      obtain ⟨terms, hterms, hkey, husername⟩ :=
        account_of_job hbefore hstep hlabel key keys policy sponsor username rfl
      obtain ⟨job, hjob, rfl⟩ := List.mem_map.mp hterms
      refine ⟨job, hjob, hkey, husername, ?_⟩
      exact jobs_acknowledged hempty hbefore (fun t' ht' => hall t' (List.mem_append_left _ ht'))
        job.terms hterms

end Runs

/-! ### Two runs -/

instance (time : Timestamp) (row : PublicRecordDisclosureRow) (db : IdentityDb) :
    Decidable (Current time row db) :=
  inferInstanceAs (Decidable (_ ∧ _))

/-- A transaction that is committed and acknowledged, or refused. -/
def stored {α : Type} (result : Except Failure (α × IdentityDb)) (db : IdentityDb) :
    Except OnboardingError α × IdentityDb :=
  match result with
  | .ok (a, db') => (.ok a, db')
  | .error e => (.error (.failure e), db)

theorem stored_outcome {α : Type} (result : Except Failure (α × IdentityDb)) (db : IdentityDb) :
    StoreOutcome result db (stored result db).1 (stored result db).2 := by
  unfold stored
  split
  · exact .committed rfl
  · exact .refused rfl

/-- Answers a request at a time; no name exists on Hive, and the connection holds. -/
def serveOnboarding (time : Timestamp) (q : OnboardingRequest) (db : IdentityDb) :
    Except OnboardingError q.Response × IdentityDb :=
  match q with
  | .newDate => (.ok time, db)
  | .usernameExists _ => (.ok false, db)
  | .exchange _ _ _ => (.ok ⟨"https://accounts.google.com", "subject"⟩, db)
  | .isUsernamePending name => (.ok (isUsernamePending name db.toDb), db)
  | .findForIdentity identity => (.ok (findForIdentity identity db.toDb), db)
  | .findByIdForIdentity id identity => (.ok (findByIdForIdentity id identity db.toDb), db)
  | .confirmUsername input =>
    stored (storeConfirmation ⟨db.provisioning.rows.length⟩ time input db) db
  | .getCurrentDisclosure day =>
    match db.publicRecordDisclosure.rows.find? fun row => Current day row db with
    | some row => (.ok (some ⟨row.contentSha256, row.effectiveAt, row.disclosureVersion⟩), db)
    | none => (.error (.failure .unavailable), db)
  | .acknowledgeCurrentDisclosure input =>
    stored (Auth.acknowledgeCurrentDisclosure ⟨db.disclosureAcknowledgment.rows.length⟩ input db) db
  | .upsertGoogleIdentity _ _ _ => (.error (.failure .unavailable), db)

theorem serveOnboarding_answers (time : Timestamp) (q : OnboardingRequest) (db : IdentityDb) :
    answerOnboarding q db (serveOnboarding time q db).1 (serveOnboarding time q db).2 := by
  cases q with
  | newDate => exact ⟨rfl, time, rfl⟩
  | usernameExists name => rfl
  | exchange code verifier redirect => rfl
  | isUsernamePending name => exact ⟨rfl, .inl rfl⟩
  | findForIdentity identity => exact ⟨rfl, .inl rfl⟩
  | findByIdForIdentity id identity => exact ⟨rfl, .inl rfl⟩
  | confirmUsername input => exact ⟨_, _, stored_outcome _ db⟩
  | acknowledgeCurrentDisclosure input => exact ⟨_, stored_outcome _ db⟩
  | upsertGoogleIdentity issuer hash day => exact ⟨⟨0⟩, .error (.failure .unavailable), .unsent, rfl⟩
  | getCurrentDisclosure day =>
    simp only [serveOnboarding]
    split
    · rename_i row hfind
      have hcurrent : Current day row db := by simpa using List.find?_some hfind
      exact ⟨rfl, .inl ⟨_, rfl, row, hcurrent, rfl⟩⟩
    · exact ⟨rfl, .inr rfl⟩

/-- One Google identity and one disclosure; no job and no acknowledgment. -/
def onboardingStore : IdentityDb where
  toDb := { exampleDb with provisioning := .empty }
  publicRecordDisclosure :=
    ⟨[⟨"2026-07-22", DisclosureService.expectedContentSha256, 0, none⟩], by decide⟩
  hiveLoginChallenge := .empty

def onboardingSetup : OnboardingSetup where
  config := some ⟨"sponsor", "v1", "signup"⟩
  scopedKey := fun _ key => key
  subjectLookup := fun identity => identity.subject

/-- The client acknowledges the disclosure (`false`), and confirms a username (`true`). -/
def onboardingCalls : Bool → OnboardingCall
  | false => .acknowledge DisclosureService.expectedContentSha256 "2026-07-22" (some ⟨2⟩) none
  | true => .confirmUsername ⟨2⟩ "newplayer" "confirm"

/-- The requests of the client, answered at the time 100 in the order of the schedule. -/
def onboardingTrace (schedule : List (Bool × Timestamp)) :
    List (Transition (Sys OnboardingRequest OnboardingRequest.Response OnboardingError Unit
        IdentityDb Bool)
      (SysLabel OnboardingRequest OnboardingRequest.Response OnboardingError Bool)) :=
  Sys.followed serveOnboarding (fun k => (onboardingCalls k).program onboardingSetup)
    ⟨onboardingStore, fun k => (onboardingCalls k).program onboardingSetup⟩ schedule

/-- A step of the API as a step of the platform, with an idle worker. -/
def onPlatform (t : Transition (Sys OnboardingRequest OnboardingRequest.Response OnboardingError Unit
      IdentityDb Bool)
    (SysLabel OnboardingRequest OnboardingRequest.Response OnboardingError Bool)) :
    PlatformTransition Bool Unit :=
  ⟨⟨t.pre.shared, t.pre.procs, fun _ => process ⟨0⟩ 0⟩, .request t.label,
    ⟨t.post.shared, t.post.procs, fun _ => process ⟨0⟩ 0⟩⟩

theorem onPlatform_run
    {S S' : Sys OnboardingRequest OnboardingRequest.Response OnboardingError Unit IdentityDb Bool}
    {ts : List (Transition (Sys OnboardingRequest OnboardingRequest.Response OnboardingError Unit
        IdentityDb Bool)
      (SysLabel OnboardingRequest OnboardingRequest.Response OnboardingError Bool))}
    (hrun : Run (SysStep (fun _ _ => False) answerOnboarding
      fun k => (onboardingCalls k).program onboardingSetup) S ts S') :
    Run (PlatformStep onboardingSetup onboardingCalls fun _ : Unit => (⟨0⟩, 0))
      ⟨S.shared, S.procs, fun _ => process ⟨0⟩ 0⟩ (ts.map onPlatform)
      ⟨S'.shared, S'.procs, fun _ => process ⟨0⟩ 0⟩ := by
  induction hrun with
  | refl => exact .refl _
  | @snoc m S' ts l hr hl ih =>
    rw [List.map_append]
    exact ih.snoc (.request hl)

theorem onboarding_run (schedule : List (Bool × Timestamp)) :
    ∃ S, Run (PlatformStep onboardingSetup onboardingCalls fun _ : Unit => (⟨0⟩, 0))
      (Platform.start onboardingSetup onboardingCalls (fun _ => (⟨0⟩, 0)) onboardingStore)
      ((onboardingTrace schedule).map onPlatform) S :=
  ⟨_, onPlatform_run (Sys.followed_run serveOnboarding_answers schedule
    ⟨onboardingStore, fun k => (onboardingCalls k).program onboardingSetup⟩)⟩

/-- The client confirms a username and nothing else. -/
def unacknowledgedSchedule : List (Bool × Timestamp) := List.replicate 6 (true, 100)

/-- A job is created for an identity that acknowledged nothing. -/
theorem not_acknowledgedFirst :
    ¬ ∀ (store : IdentityDb) (ts : List (PlatformTransition Bool Unit)) (S : Platform Bool Unit),
      jobTerms store.toDb = [] →
      Run (PlatformStep onboardingSetup onboardingCalls fun _ : Unit => (⟨0⟩, 0))
        (Platform.start onboardingSetup onboardingCalls (fun _ => (⟨0⟩, 0)) store) ts S →
      AcknowledgedFirst ts := by
  intro h
  obtain ⟨S, hrun⟩ := onboarding_run unacknowledgedSchedule
  have hfirst := h onboardingStore _ S rfl hrun
  have hcreated : ∃ t ∈ onboardingTrace unacknowledgedSchedule,
      t.post.shared.provisioning.rows ≠ [] := by decide +kernel
  have hnone : ∀ t ∈ onboardingTrace unacknowledgedSchedule,
      t.pre.shared.disclosureAcknowledgment.rows = [] := by decide +kernel
  obtain ⟨t, ht, hjobs⟩ := hcreated
  obtain ⟨before, after, hsplit⟩ := List.append_of_mem (List.mem_map_of_mem (f := onPlatform) ht)
  obtain ⟨job, hjob⟩ := List.exists_mem_of_ne_nil _ hjobs
  obtain ⟨t', ht', -, -, disclosure, -, row, hrow, -⟩ := hfirst.jobs before _ after hsplit job hjob
  have hmem : t' ∈ (onboardingTrace unacknowledgedSchedule).map onPlatform := by
    rw [hsplit, ← List.singleton_append, ← List.append_assoc]
    exact List.mem_append_left _ ht'
  obtain ⟨u, hu, rfl⟩ := List.mem_map.mp hmem
  have hrow : row ∈ u.pre.shared.disclosureAcknowledgment.rows := hrow
  rw [hnone u hu] at hrow
  exact absurd hrow List.not_mem_nil

/-- The client acknowledges first: the job is created. -/
theorem acknowledgedFirst_iff_acknowledged :
    ∃ ts S, Run (PlatformStep onboardingSetup onboardingCalls fun _ : Unit => (⟨0⟩, 0))
        (Platform.start onboardingSetup onboardingCalls (fun _ => (⟨0⟩, 0)) onboardingStore) ts S ∧
      (AcknowledgedFirst ts ↔ ∀ t ∈ ts, Acknowledging t) ∧
      (∃ t ∈ ts, t.post.store.provisioning.rows ≠ [] ∧
        t.pre.store.disclosureAcknowledgment.rows ≠ []) := by
  obtain ⟨S, hrun⟩ := onboarding_run (List.replicate 3 (false, 100) ++ List.replicate 6 (true, 100))
  refine ⟨_, S, hrun, acknowledgedFirst_iff rfl hrun, ?_⟩
  have hcreated : ∃ t ∈ onboardingTrace
      (List.replicate 3 (false, 100) ++ List.replicate 6 (true, 100)),
      t.post.shared.provisioning.rows ≠ [] ∧ t.pre.shared.disclosureAcknowledgment.rows ≠ [] := by
    decide +kernel
  obtain ⟨t, ht, hjobs⟩ := hcreated
  exact ⟨onPlatform t, List.mem_map_of_mem ht, hjobs⟩

end HiveChameleon.Provisioning
