import HiveChameleon.Provisioning.Safety

/-!
# Provisioning.Resumption — a later call repeats nothing that was recorded

A call decides from the state it reads which of the sponsor's requests are still to be made, and a job
only moves forward.  So a call that reads a job after its account, or its delegation, was recorded asks
for neither again.
-/

namespace HiveChameleon.Provisioning

open Gateway Lib

/-! ### The property -/

/-- A request to the sponsor for an account. -/
def Request.CreatesAccount : Request → Prop
  | .createClaimedAccount _ _ _ _ _ => True
  | _ => False

/-- A request to the sponsor for a delegation. -/
def Request.Delegates : Request → Prop
  | .delegateInitialResourceCredits _ _ _ _ => True
  | _ => False

section Property

variable {ι : Type}

/-- A step of the calls on a job. -/
abbrev ProvisioningTransition (ι : Type) :=
  Transition (ProvisioningSys ι) (SysLabel Request Request.Response Failure ι)

/-- Some step recorded the job in the state. -/
def Recorded (id : Uuid) (state : ProvisioningState) (ts : List (ProvisioningTransition ι)) : Prop :=
  ∃ t ∈ ts, stageOf id t.post.shared = some state

/-- A call that reads the job after `state` was recorded makes none of the requests `Issues`, until
it is started over. -/
def NotRepeated (id : Uuid) (state : ProvisioningState) (Issues : Request → Prop)
    (ts : List (ProvisioningTransition ι)) : Prop :=
  ∀ us t vs t' ws i r q r', ts = us ++ t :: (vs ++ t' :: ws) → Recorded id state us →
    t.label = .answer i (.getJobForUpdate id) r → (∀ t'' ∈ vs, t''.label ≠ .restart i) →
      t'.label = .answer i q r' → ¬ Issues q

/-- **Provisioning resumes**: a later call reads the furthest recorded stage, and it repeats neither the
account nor the delegation once they are recorded. -/
structure Resumes (id : Uuid) (ts : List (ProvisioningTransition ι)) : Prop where
  stage : ∀ us t vs i job state, ts = us ++ t :: vs → Recorded id state us →
    t.label = .answer i (.getJobForUpdate id) (.ok (some job)) → progress state ≤ progress job.state
  account : NotRepeated id .accountCreated Request.CreatesAccount ts
  delegation : NotRepeated id .rcDelegated Request.Delegates ts

end Property

/-! ### What a call asks -/

/-- The requests of a call after it read a job in `state`. -/
def Permits (id : Uuid) (state : ProvisioningState) (q : Request) : Prop :=
  q ≠ .getJobForUpdate id ∧ (q.CreatesAccount → state ∈ accountStates) ∧
    (q.Delegates → state ≠ .rcDelegated)

section Calls

variable {id : Uuid} {job : ProvisioningJob} {now : Timestamp}

theorem permits_other {state : ProvisioningState} {q : Request} (hread : q ≠ .getJobForUpdate id)
    (haccount : ¬ q.CreatesAccount) (hdelegation : ¬ q.Delegates) : Permits id state q :=
  ⟨hread, fun h => absurd h haccount, fun h => absurd h hdelegation⟩

theorem ensureKeys_permitted : Prog.Only (Permits id job.state) (ensureKeys job now) := by
  refine Prog.only_bind (Prog.only_request ?_) fun existing => Prog.only_ite ?_ (Prog.only_ite ?_ ?_)
  · exact permits_other (by intro h; cases h) not_false not_false
  · exact Prog.only_bind Prog.only_lift fun _ => Prog.only_ret
  · exact Prog.only_throw
  refine Prog.only_bind (Prog.only_request ?_) fun generated => ?_
  · exact permits_other (by intro h; cases h) not_false not_false
  refine Prog.only_bind Prog.only_lift fun _ => Prog.only_bind ?_ fun _ => Prog.only_ret
  refine Prog.only_bind (Prog.only_request ?_) fun added => Prog.only_request ?_
  · exact permits_other (by intro h; cases h) not_false not_false
  · exact permits_other (by intro h; cases h) not_false not_false

theorem createAccount_permitted {keys : KeyMap} (hstate : job.state ∈ accountStates) :
    Prog.Only (Permits id job.state) (createAccount job keys now) := by
  refine Prog.only_bind (Prog.only_request ?_) fun account => ?_
  · exact ⟨(by intro h; cases h), fun _ => hstate, False.elim⟩
  refine Prog.only_bind (Prog.only_request ?_) fun _ => ?_
  · exact permits_other (by intro h; cases h) not_false not_false
  refine Prog.only_bind (Prog.only_request ?_) fun verification => Prog.only_ite Prog.only_throw ?_
  · exact permits_other (by intro h; cases h) not_false not_false
  exact Prog.only_request (permits_other (by intro h; cases h) not_false not_false)

theorem delegateCredits_permitted (hstate : job.state ≠ .rcDelegated) :
    Prog.Only (Permits id job.state) (delegateCredits job now) := by
  refine Prog.only_bind (Prog.only_request ?_) fun _ => ?_
  · exact permits_other (by intro h; cases h) not_false not_false
  refine Prog.only_bind (Prog.only_request ?_) fun reference => Prog.only_request ?_
  · exact ⟨(by intro h; cases h), False.elim, fun _ => hstate⟩
  · exact permits_other (by intro h; cases h) not_false not_false

/-- **What an attempt asks** follows from the state it read. -/
theorem attempt_permitted : Prog.Only (Permits id job.state) (attempt job now) := by
  refine Prog.only_bind ensureKeys_permitted fun references => ?_
  refine Prog.only_bind Prog.only_lift fun keys => Prog.only_bind ?_ fun _ => ?_
  · by_cases hstate : job.state ∈ accountStates
    · rw [if_pos hstate]
      exact createAccount_permitted hstate
    · rw [if_neg hstate]
      exact Prog.only_ret
  refine Prog.only_bind ?_ fun _ => ?_
  · by_cases hstate : job.state ≠ .rcDelegated
    · rw [if_pos hstate]
      exact delegateCredits_permitted hstate
    · rw [if_neg hstate]
      exact Prog.only_ret
  refine Prog.only_bind (Prog.only_request ?_) fun verification => Prog.only_ite Prog.only_throw ?_
  · exact permits_other (by intro h; cases h) not_false not_false
  refine Prog.only_bind (Prog.only_request ?_) fun _ => Prog.only_ret
  exact permits_other (by intro h; cases h) not_false not_false

theorem recordFailure_permitted {error : Failure} :
    Prog.Only (Permits id job.state) (recordFailure job now error) :=
  Prog.only_bind (Prog.only_request (permits_other (by intro h; cases h) not_false not_false))
    fun _ => Prog.only_throw

/-- What `process` does with the answer to its first request. -/
def proceed (now : Timestamp) : Except Failure (Option ProvisioningJob) → Provisioner ProvisioningJob
  | .error e => .throw e
  | .ok none => .throw (.error "Provisioning job does not exist.")
  | .ok (some job) =>
    if job.state = .ready ∨ job.state = .terminalFailed then .ret job
    else (attempt job now).orElse (recordFailure job now)

theorem process_eq : process id now = .call (.getJobForUpdate id) (proceed now) := by
  refine congrArg (Prog.call (Request.getJobForUpdate id)) (funext fun r => ?_)
  cases r with
  | error e => rfl
  | ok found =>
    cases found with
    | none => rfl
    | some job => rfl

theorem proceed_permitted (id : Uuid) {P : Request → Prop}
    {r : Except Failure (Option ProvisioningJob)}
    (hP : ∀ job, r = .ok (some job) → job.state ≠ .ready → ∀ q, Permits id job.state q → P q) :
    Prog.Only P (proceed now r) := by
  rcases r with e | _ | job
  · exact Prog.only_throw
  · exact Prog.only_throw
  by_cases hend : job.state = .ready ∨ job.state = .terminalFailed
  · have hproceed : proceed now (.ok (some job)) = .ret job := if_pos hend
    rw [hproceed]
    exact Prog.only_ret
  · have hproceed : proceed now (.ok (some job)) = (attempt job now).orElse (recordFailure job now) :=
      if_neg hend
    rw [hproceed]
    have hattempt : Prog.Only (Permits id job.state)
        ((attempt job now).orElse (recordFailure job now)) :=
      Prog.only_orElse attempt_permitted fun _ => recordFailure_permitted
    exact Prog.only_mono hattempt (hP job rfl fun hready => hend (.inl hready))

end Calls

/-! ### Runs -/

section Runs

variable {ι : Type} [DecidableEq ι] {id : Uuid} {now : ι → Timestamp} {n : ℕ}

/-- **One step** does not take the job back. -/
theorem reached_step {S S' : ProvisioningSys ι} {l : SysLabel Request Request.Response Failure ι}
    (hstep : ProvisioningStep id now S l S') (h : Reached id n S.shared) : Reached id n S'.shared := by
  cases hstep with
  | env hmoved => exact h.congr (by rw [stageOf, hmoved.provisioning, stageOf])
  | restart i => exact h
  | answer i hp hans => exact h.answer hans

/-- **A run** has come as far as any state that it recorded. -/
theorem reached_of_recorded {S S' : ProvisioningSys ι} {ts : List (ProvisioningTransition ι)}
    {state : ProvisioningState} (hrun : Run (ProvisioningStep id now) S ts S')
    (hrecorded : Recorded id state ts) : Reached id (progress state) S'.shared := by
  obtain ⟨t, ht, hstage⟩ := hrecorded
  obtain ⟨us, vs, rfl, -, -, hrest⟩ := hrun.split_of_mem ht
  exact (hrest.invariant' (I := fun S => Reached id (progress state) S.shared)
    (fun _ _ _ hm hl => reached_step hl hm) ⟨state, hstage, le_rfl⟩).1

theorem begun_run {db : Db} {S : ProvisioningSys ι} {ts : List (ProvisioningTransition ι)}
    (hrun : Run (ProvisioningStep id now) (ProvisioningSys.start id now db) ts S) :
    S.Begun (fun i => process id (now i)) (· ≠ .getJobForUpdate id) := by
  have hmain : ∀ i q k, process id (now i) = .call q k →
      ∀ r, Prog.Only (· ≠ .getJobForUpdate id) (k r) := by
    intro i q k hcall r
    rw [process_eq] at hcall
    cases hcall
    exact proceed_permitted id fun _ _ _ _ h => h.1
  exact (hrun.invariant' (I := fun S => S.Begun (fun i => process id (now i))
    (· ≠ .getJobForUpdate id)) (fun _ _ _ hm hl => hl.begun hmain hm) fun i => .inl rfl).1

theorem read_step {S S' : ProvisioningSys ι} {i : ι} {r : Except Failure (Option ProvisioningJob)}
    (hbegun : S.Begun (fun i => process id (now i)) (· ≠ .getJobForUpdate id))
    (hstep : ProvisioningStep id now S (.answer i (.getJobForUpdate id) r) S') :
    S'.procs i = proceed (now i) r ∧
      ∀ job, r = .ok (some job) → stageOf id S.shared = some job.state := by
  cases hstep with
  | @answer db db' ps i q k r hp hans =>
    have hstart : ps i = process id (now i) := by
      rcases hbegun i with hstart | honly
      · exact hstart
      · have hcall : Prog.Only (· ≠ .getJobForUpdate id)
            (Prog.call (Request.getJobForUpdate id) k) := hp ▸ honly
        exact absurd rfl (Prog.only_call.mp hcall).1
    have hk : Prog.call (Request.getJobForUpdate id) k = process id (now i) := hp.symm.trans hstart
    rw [process_eq] at hk
    cases hk
    refine ⟨Function.update_self .., fun job hr => ?_⟩
    rcases hans.2 with hread | hlost
    · have hjob : getJobForUpdate id db = some job := Except.ok.inj (hread.symm.trans hr)
      unfold getJobForUpdate at hjob
      obtain ⟨row, hfind, hrow⟩ := Option.map_eq_some_iff.mp hjob
      show stageOf id db = some job.state
      unfold stageOf
      rw [hfind, ← hrow]
      rfl
    · cases hlost.symm.trans hr

theorem notRepeated_of_permits {db : Db} {S : ProvisioningSys ι}
    {ts : List (ProvisioningTransition ι)} {state : ProvisioningState} {Issues : Request → Prop}
    (hrun : Run (ProvisioningStep id now) (ProvisioningSys.start id now db) ts S)
    (hpermits : ∀ found, progress state ≤ progress found → found ≠ .ready →
      ∀ q, Permits id found q → ¬ Issues q) :
    NotRepeated id state Issues ts := by
  intro us t vs t' ws i r q r' hts hrecorded hread hvs hissued
  subst hts
  obtain ⟨S₁, hus, hrest⟩ := hrun.of_append
  obtain ⟨rfl, hstep, hrest⟩ := hrest.of_cons
  obtain ⟨S₂, hcall, hrest⟩ := hrest.of_append
  obtain ⟨rfl, hstep', -⟩ := hrest.of_cons
  rw [hread] at hstep
  obtain ⟨hproc, hfound⟩ := read_step (begun_run hus) hstep
  obtain ⟨found, hstage, hle⟩ := reached_of_recorded hus hrecorded
  have honly : Prog.Only (fun q => ¬ Issues q) (t.post.procs i) := by
    rw [hproc]
    refine proceed_permitted id fun job hr hready => ?_
    obtain rfl : found = job.state := Option.some.inj (hstage.symm.trans (hfound job hr))
    exact hpermits job.state hle hready
  have hanswer : t'.label ≠ .restart i := by
    rw [hissued]
    intro h
    cases h
  exact (hstep'.only (Sys.only_of_run hcall honly hvs) hanswer).2 q r' hissued

/-- **Provisioning resumes**: over every run of any number of calls, with failures and crashes
anywhere. -/
theorem resumes_of_run {db : Db} {S : ProvisioningSys ι} {ts : List (ProvisioningTransition ι)}
    (hrun : Run (ProvisioningStep id now) (ProvisioningSys.start id now db) ts S) : Resumes id ts where
  stage := by
    intro us t vs i job state hts hrecorded hread
    subst hts
    obtain ⟨S₁, hus, hrest⟩ := hrun.of_append
    obtain ⟨rfl, hstep, -⟩ := hrest.of_cons
    rw [hread] at hstep
    have hfound := (read_step (begun_run hus) hstep).2 job rfl
    obtain ⟨found, hstage, hle⟩ := reached_of_recorded hus hrecorded
    obtain rfl : found = job.state := Option.some.inj (hstage.symm.trans hfound)
    exact hle
  account := by
    refine notRepeated_of_permits hrun fun found hle _ q hpermits hcreates => ?_
    have hfound := hpermits.2.1 hcreates
    have hbefore : ∀ state ∈ accountStates, ¬ progress .accountCreated ≤ progress state := by decide
    exact hbefore found hfound hle
  delegation := by
    refine notRepeated_of_permits hrun fun found hle hready q hpermits hdel => ?_
    have hne := hpermits.2.2 hdel
    cases found with
    | rcDelegated => exact hne rfl
    | ready => exact hready rfl
    | _ => exact absurd hle (by decide)

end Runs

/-! ### A failure between two calls -/

/-- The delegation of the first call does not refer to a known one, so it fails after it recorded the
account; the second call finishes the job. -/
def failingSchedule : List (Bool × Reply) :=
  List.replicate 13 (false, { exampleReply true with delegation := "unknown" }) ++
    List.replicate 7 (true, exampleReply true)

/-- The steps of a schedule. -/
def scheduledSteps (schedule : List (Bool × Reply)) : List (ProvisioningTransition Bool) :=
  (ProvisioningSys.start ⟨1⟩ exampleClock exampleDb).followed serve
    (fun i => process ⟨1⟩ (exampleClock i)) schedule

theorem scheduledSteps_run (schedule : List (Bool × Reply)) :
    Run (ProvisioningStep ⟨1⟩ exampleClock) (.start ⟨1⟩ exampleClock exampleDb)
      (scheduledSteps schedule) (scheduled schedule) :=
  Sys.followed_run serve_answers schedule _

theorem resumes_of_run_failing :
    Resumes ⟨1⟩ (scheduledSteps failingSchedule) ∧
      (scheduledSteps failingSchedule).any
        (fun t => stageOf ⟨1⟩ t.post.shared = some .accountCreated) = true ∧
      (scheduled (failingSchedule.take 13)).shared.provisioning.rows.map (·.state) =
        [.rcDelegationPending] ∧
      stageOf ⟨1⟩ (scheduled failingSchedule).shared = some .ready :=
  ⟨resumes_of_run (scheduledSteps_run failingSchedule), by decide +kernel, by decide +kernel,
    by decide +kernel⟩

end HiveChameleon.Provisioning
