import HiveChameleon.Provisioning.Service

/-!
# Provisioning.Stages — a job only moves forward

What an answer of the repository does to the recorded state of a job.  Each update matches states that
do not come after the one that it writes, and the statement that would record a failure is refused, so
no answer takes a job back.
-/

namespace HiveChameleon.Provisioning

open Gateway Lib

/-! ### What a statement did -/

section Statements

variable {id : Uuid} {db db' : Db}

theorem transition_eq_ok {states : List ProvisioningState}
    {set : Table.Assignment ProvisioningRow.id} :
    transition id states set db = .ok db' ↔
      (∀ row ∈ db.provisioning, row.id = id ∧ row.state ∈ states →
        provisioningChecks (set row) = .ok ()) ∧
      { db with provisioning :=
          db.provisioning.modify (fun row => row.id = id ∧ row.state ∈ states) set } = db' := by
  simp only [transition, bind_eq_ok, Table.update_eq_ok, pure_eq_ok]
  constructor
  · rintro ⟨table, ⟨hchecks, rfl⟩, rfl⟩
    exact ⟨hchecks, rfl⟩
  · rintro ⟨hchecks, rfl⟩
    exact ⟨_, ⟨hchecks, rfl⟩, rfl⟩

theorem upsertPlayer_eq_ok {playerId player : Uuid} {username : String}
    (hok : upsertPlayer playerId username db = .ok (player, db')) :
    ∃ players, db' = { db with player := players } := by
  unfold upsertPlayer at hok
  split at hok
  · obtain ⟨-, rfl⟩ := Prod.mk.inj (Except.ok.inj hok)
    exact ⟨_, rfl⟩
  · simp only [bind_eq_ok, exists_unit, pure_eq_ok, Prod.mk.injEq] at hok
    obtain ⟨-, -, table, -, -, rfl⟩ := hok
    exact ⟨_, rfl⟩

/-- What never changes in a job. -/
structure JobTerms where
  id : Uuid
  externalIdentityId : Uuid
  idempotencyKey : String
  requestedHiveUsername : String
  sponsorHiveAccount : String
  usernameConfirmedAt : Timestamp

def ProvisioningRow.terms (row : ProvisioningRow) : JobTerms where
  id := row.id
  externalIdentityId := row.externalIdentityId
  idempotencyKey := row.idempotencyKey
  requestedHiveUsername := row.requestedHiveUsername
  sponsorHiveAccount := row.sponsorHiveAccount
  usernameConfirmedAt := row.usernameConfirmedAt

theorem finalize_eq_ok {playerId : Uuid} {job : ProvisioningRow} {time : Timestamp}
    (hok : finalize playerId job time db = .ok db') :
    ∃ player, ∃ set : Table.Assignment ProvisioningRow.id,
      ∃ activate : Table.Assignment CustodyKeyRow.id,
      ∃ link : Table.Assignment ExternalIdentityRow.id,
      (∀ row, (set row).resultingPlayerId = some player ∧ (set row).state = .ready ∧
        (set row).terms = row.terms) ∧
      (∀ k, (activate k).playerId = some player ∧ (activate k).state = .active ∧
        (activate k).provisioningId = k.provisioningId ∧
        (activate k).authorityRole = k.authorityRole ∧
        (activate k).hivePublicKey = k.hivePublicKey) ∧
      (∀ i, (link i).playerId = some player ∧ (link i).status = .linked ∧
        (link i).verifiedIssuer = i.verifiedIssuer ∧
        (link i).subjectLookupHash = i.subjectLookupHash) ∧
      db'.provisioning = db.provisioning.modify (fun row => row.id = job.id ∧
        row.state ∈ [ProvisioningState.rcDelegated, .retryableFailed]) set ∧
      db'.custodyKey = db.custodyKey.modify (activatable job.id) activate ∧
      db'.externalIdentity = db.externalIdentity.modify (fun identity =>
        identity.id = job.externalIdentityId ∧ identity.status = .provisioning) link := by
  simp only [finalize, bind_eq_ok, Prod.exists] at hok
  obtain ⟨player, db₁, hplayer, db₂, hkeys, db₃, hjob, db₄, hidentity, hacknowledge⟩ := hok
  obtain ⟨players, rfl⟩ := upsertPlayer_eq_ok hplayer
  simp only [activateKeys, bind_eq_ok, exists_unit, pure_eq_ok] at hkeys
  obtain ⟨-, rfl⟩ := hkeys
  simp only [finishProvisioning, bind_eq_ok, exists_unit] at hjob
  obtain ⟨-, hjob⟩ := hjob
  obtain ⟨-, rfl⟩ := transition_eq_ok.mp hjob
  simp only [linkIdentity, bind_eq_ok, exists_unit, pure_eq_ok] at hidentity
  obtain ⟨-, rfl⟩ := hidentity
  simp only [linkAcknowledgments, bind_eq_ok, exists_unit, pure_eq_ok] at hacknowledge
  obtain ⟨-, rfl⟩ := hacknowledge
  exact ⟨player, _, _, _, fun _ => ⟨rfl, rfl, rfl⟩,
    fun _ => ⟨rfl, rfl, rfl, rfl, rfl⟩, fun _ => ⟨rfl, rfl, rfl, rfl⟩, rfl, rfl, rfl⟩

end Statements

/-! ### The recorded state -/

/-- The recorded state of the job. -/
def stageOf (id : Uuid) (db : Db) : Option ProvisioningState :=
  (db.provisioning.find? id).map (·.state)

/-- How far a job in this state has come; a failure does not say. -/
def progress : ProvisioningState → ℕ
  | .usernameConfirmed => 1
  | .keysReady => 2
  | .accountCreationPending => 3
  | .accountCreated => 4
  | .rcDelegationPending => 5
  | .rcDelegated => 6
  | .ready => 7
  | .retryableFailed => 0
  | .terminalFailed => 0

/-- The recorded state has come as far as `n`. -/
def Reached (id : Uuid) (n : ℕ) (db : Db) : Prop :=
  ∃ state, stageOf id db = some state ∧ n ≤ progress state

/-- An update of a job's state: the job, the states that the update matches, and the new state. -/
structure StageMove where
  job : Uuid
  states : List ProvisioningState
  state : ProvisioningState

/-- The update that a request makes. -/
def Request.move : Request → Option StageMove
  | .saveKeysCommit id _ _ =>
    some ⟨id, [.usernameConfirmed, .keysReady, .retryableFailed], .keysReady⟩
  | .markAccountCreationPending id _ _ =>
    some ⟨id, [.keysReady, .accountCreationPending, .retryableFailed], .accountCreationPending⟩
  | .markAccountCreated id _ _ =>
    some ⟨id, [.accountCreationPending, .accountCreated, .retryableFailed], .accountCreated⟩
  | .markRcDelegationPending id _ =>
    some ⟨id, [.accountCreated, .rcDelegationPending, .retryableFailed], .rcDelegationPending⟩
  | .markRcDelegated id _ _ =>
    some ⟨id, [.rcDelegationPending, .rcDelegated, .retryableFailed], .rcDelegated⟩
  | .markReady id _ => some ⟨id, [.rcDelegated, .retryableFailed], .ready⟩
  | _ => none

/-- The state that the update leaves a job in. -/
def StageMove.to (m : StageMove) (id : Uuid) (state : ProvisioningState) : ProvisioningState :=
  if m.job = id ∧ state ∈ m.states then m.state else state

section Stages

variable {id : Uuid} {db db' : Db} {m : StageMove} {n : ℕ}

theorem stageOf_of_find {job : ProvisioningRow} (hfind : db.provisioning.find? id = some job) :
    stageOf id db = some job.state := by
  unfold stageOf
  rw [hfind]
  rfl

theorem stageOf_modify {set : Table.Assignment ProvisioningRow.id}
    (hset : ∀ row, (set row).state = m.state)
    (hjobs : db'.provisioning =
      db.provisioning.modify (fun row => row.id = m.job ∧ row.state ∈ m.states) set) :
    stageOf id db' = (stageOf id db).map (m.to id) := by
  unfold stageOf
  rw [hjobs, Table.find?_modify, Option.map_map, Option.map_map]
  cases hfind : db.provisioning.find? id with
  | none => rfl
  | some job =>
    obtain ⟨-, hid⟩ := Table.find?_eq_some.mp hfind
    simp only [Option.map_some, Function.comp_apply, Option.some.injEq, StageMove.to, ← hid]
    by_cases hmatch : job.id = m.job ∧ job.state ∈ m.states
    · rw [Table.updated_of (p := fun row : ProvisioningRow => row.id = m.job ∧ row.state ∈ m.states)
        hmatch, hset, if_pos ⟨hmatch.1.symm, hmatch.2⟩]
    · rw [Table.updated_of_not
        (p := fun row : ProvisioningRow => row.id = m.job ∧ row.state ∈ m.states) hmatch,
        if_neg fun h => hmatch ⟨h.1.symm, h.2⟩]

theorem stageOf_transition {set : Table.Assignment ProvisioningRow.id} {db₀ : Db}
    (hset : ∀ row, (set row).state = m.state) (hok : transition m.job m.states set db₀ = .ok db')
    (hjobs : db₀.provisioning = db.provisioning) :
    stageOf id db' = (stageOf id db).map (m.to id) := by
  obtain ⟨-, rfl⟩ := transition_eq_ok.mp hok
  exact stageOf_modify hset (by rw [← hjobs])

theorem stageOf_markReady {playerId target : Uuid} {time : Timestamp}
    (hok : markReady playerId target time db = .ok db') :
    stageOf id db' = (stageOf id db).map
      (StageMove.to ⟨target, [.rcDelegated, .retryableFailed], .ready⟩ id) := by
  unfold markReady at hok
  cases hfind : db.provisioning.find? target with
  | none =>
    rw [hfind] at hok
    cases hok
  | some job =>
    obtain ⟨-, rfl⟩ := Table.find?_eq_some.mp hfind
    rw [hfind] at hok
    dsimp only at hok
    by_cases hready : job.state = .ready
    · rw [if_pos hready] at hok
      obtain rfl := Except.ok.inj hok
      unfold stageOf
      cases hfind' : db.provisioning.find? id with
      | none => rfl
      | some job' =>
        rw [Option.map_some, Option.map_some, StageMove.to, if_neg]
        rintro ⟨hjob, hstate⟩
        -- a ready job is not matched
        have hjob : job.id = id := hjob
        rw [← hjob, hfind] at hfind'
        obtain rfl := Option.some.inj hfind'
        have hready : ProvisioningState.ready ∈ [ProvisioningState.rcDelegated, .retryableFailed] :=
          hready ▸ hstate
        exact absurd hready (by decide)
    · rw [if_neg hready] at hok
      obtain ⟨player, set, activate, link, hset, -, -, hjobs, -, -⟩ := finalize_eq_ok hok
      exact stageOf_modify (fun row => (hset row).2.1) hjobs

/-- The recorded state stays, and no update is acknowledged. -/
abbrev Unmoved (id : Uuid) (q : Request) (db : Db) (r : Except Failure q.Response) (db' : Db) : Prop :=
  stageOf id db' = stageOf id db ∧ ∀ u, r = .ok u → q.move = none

theorem moved_of_outcome {q : Request} {result : Except Failure Db} {r : Except Failure q.Response}
    {u : Except Failure Unit} (hmove : q.move = some m) (h : CallOutcome result db u db')
    (hanswer : (∃ e, u = .error e) → ∃ e, r = .error e)
    (hok : result = .ok db' → stageOf id db' = (stageOf id db).map (m.to id)) :
    (∃ m, q.move = some m ∧ stageOf id db' = (stageOf id db).map (m.to id)) ∨
      Unmoved id q db r db' := by
  rcases CallOutcome.db_cases h with hcommitted | ⟨rfl, he⟩
  · exact .inl ⟨m, hmove, hok hcommitted⟩
  · obtain ⟨e, rfl⟩ := hanswer he
    exact .inr ⟨rfl, nofun⟩

/-- **What an answer does to the recorded state**: the update of its request, or nothing, and then
the request made none or was not acknowledged. -/
theorem answer_stage (id : Uuid) {q : Request} {r : Except Failure q.Response}
    (h : answer q db r db') :
    (∃ m, q.move = some m ∧ stageOf id db' = (stageOf id db).map (m.to id)) ∨
      Unmoved id q db r db' := by
  cases q with
  | saveKeysCommit target added time =>
    refine moved_of_outcome rfl h (fun he => he) fun hok => ?_
    simp only [saveKeysCommit, bind_eq_ok] at hok
    obtain ⟨table, -, hok⟩ := hok
    exact stageOf_transition (fun _ => rfl) hok rfl
  | markAccountCreationPending target reference time =>
    refine moved_of_outcome rfl h (fun he => he) fun hok => ?_
    simp only [markAccountCreationPending, bind_eq_ok, exists_unit] at hok
    exact stageOf_transition (fun _ => rfl) hok.2 rfl
  | markAccountCreated target transactionId time =>
    refine moved_of_outcome rfl h (fun he => he) fun hok => ?_
    simp only [markAccountCreated, bind_eq_ok, exists_unit] at hok
    exact stageOf_transition (fun _ => rfl) hok.2 rfl
  | markRcDelegationPending target time =>
    refine moved_of_outcome rfl h (fun he => he) fun hok => ?_
    exact stageOf_transition (fun _ => rfl) hok rfl
  | markRcDelegated target reference time =>
    refine moved_of_outcome rfl h (fun he => he) fun hok => ?_
    simp only [markRcDelegated, bind_eq_ok, exists_unit] at hok
    exact stageOf_transition (fun _ => rfl) hok.2 rfl
  | markReady target time =>
    obtain ⟨playerId, houtcome⟩ := h
    exact moved_of_outcome rfl houtcome (fun he => he) stageOf_markReady
  | markRetryableFailure target code time =>
    rcases CallOutcome.db_cases h with hok | ⟨rfl, -⟩
    · cases hok
    · exact .inr ⟨rfl, fun _ _ => rfl⟩
  | getJobForUpdate target => exact .inr ⟨congrArg (stageOf id) h.1, fun _ _ => rfl⟩
  | getKeys target => exact .inr ⟨congrArg (stageOf id) h.1, fun _ _ => rfl⟩
  | saveKeys target keys time => exact .inr ⟨congrArg (stageOf id) h.1, fun _ _ => rfl⟩
  | generateAuthorityKeys key target roles => exact .inr ⟨congrArg (stageOf id) h, fun _ _ => rfl⟩
  | createClaimedAccount key keys policy sponsor username =>
    exact .inr ⟨congrArg (stageOf id) h, fun _ _ => rfl⟩
  | delegateInitialResourceCredits key policy sponsor username =>
    exact .inr ⟨congrArg (stageOf id) h, fun _ _ => rfl⟩
  | verifyReady keys sponsor username => exact .inr ⟨congrArg (stageOf id) h, fun _ _ => rfl⟩

theorem move_progress {q : Request} (hmove : q.move = some m) (state : ProvisioningState) :
    progress state ≤ progress (m.to id state) := by
  have hstates : ∀ state ∈ m.states, progress state ≤ progress m.state := by
    unfold Request.move at hmove
    split at hmove <;> cases hmove <;> dsimp only <;> decide
  unfold StageMove.to
  split
  · rename_i hmatch
    exact hstates state hmatch.2
  · exact le_rfl

theorem Reached.congr (h : Reached id n db) (heq : stageOf id db' = stageOf id db) :
    Reached id n db' := by
  unfold Reached
  rw [heq]
  exact h

theorem Reached.mono {k : ℕ} (h : Reached id n db) (hle : k ≤ n) : Reached id k db := by
  obtain ⟨state, hstate, hprogress⟩ := h
  exact ⟨state, hstate, hle.trans hprogress⟩

/-- **No answer takes a job back.** -/
theorem Reached.answer {q : Request} {r : Except Failure q.Response} (hreached : Reached id n db)
    (h : answer q db r db') : Reached id n db' := by
  rcases answer_stage id h with ⟨m, hmove, hstage⟩ | ⟨hsame, -⟩
  · obtain ⟨state, hstate, hle⟩ := hreached
    rw [hstate, Option.map_some] at hstage
    exact ⟨_, hstage, hle.trans (move_progress hmove state)⟩
  · exact hreached.congr hsame

/-- **An acknowledged update moves a job on** from every state just before its own. -/
theorem Reached.acknowledged {q : Request} {u : q.Response} {states : List ProvisioningState}
    {target : ProvisioningState} (hreached : Reached id n db)
    (h : Provisioning.answer q db (.ok u) db') (hmove : q.move = some ⟨id, states, target⟩)
    (hcover : ∀ state, n ≤ progress state → state ∈ states ∨ progress target ≤ progress state) :
    Reached id (progress target) db' := by
  rcases answer_stage id h with ⟨m, hmove', hstage⟩ | ⟨-, hnone⟩
  · obtain rfl := Option.some.inj (hmove.symm.trans hmove')
    obtain ⟨state, hstate, hle⟩ := hreached
    rw [hstate, Option.map_some] at hstage
    refine ⟨_, hstage, ?_⟩
    unfold StageMove.to
    rcases hcover state hle with hmatch | hfurther
    · rw [if_pos ⟨rfl, hmatch⟩]
    · split
      · exact le_rfl
      · exact hfurther
  · rw [hnone u rfl] at hmove
    cases hmove

end Stages

end HiveChameleon.Provisioning
