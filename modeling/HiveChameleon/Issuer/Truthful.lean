import HiveChameleon.Issuer.CollectibleIssuer
import HiveChameleon.Lib.WriteAhead
import HiveChameleon.Publisher.Journal

/-!
# Issuer.Truthful — what the intents of the two services say

The workers of the match publisher and the calls of the collectible issuer write one journal.  Their
attempts are attempts of the write-ahead protocol: the effect is the signing and broadcasting of a
transaction by the gateway.
-/

namespace HiveChameleon.Issuer

open Gateway Lib Nakama Publisher

/-! ### The services and what happened -/

/-- What an await adds to the history of an attempt. -/
inductive AttemptEvent where
  | made (id : Uuid)
  | signed (id : Uuid) (key : String)
  | reported (id : Uuid)
  | unmarked (id : Uuid)

/-- The intents that attempts recorded, the requests sent to the signer, the intents whose broadcast the
gateway reported, and those for which a call of `markBroadcast` raised. -/
structure AttemptLog where
  made : List Uuid
  signed : List (Uuid × String)
  reported : List Uuid
  unmarked : List Uuid

def AttemptLog.add (log : AttemptLog) : Option AttemptEvent → AttemptLog
  | none => log
  | some (.made id) => { log with made := log.made ++ [id] }
  | some (.signed id key) => { log with signed := log.signed ++ [(id, key)] }
  | some (.reported id) => { log with reported := log.reported ++ [id] }
  | some (.unmarked id) => { log with unmarked := log.unmarked ++ [id] }

/-- The workers, with the database and the journal, and the calls of the issuer. -/
structure ServiceSys (W : WorkerConfig) (ι κ : Type) where
  workers : WorkerSys W ι
  issuers : κ → IssuerStage
  log : AttemptLog

inductive ServiceLabel (I : IssuerConfig) (ι κ : Type) where
  | publisher (l : WorkerLabel ι)
  | issuer (k : κ) (action : IssuerAction I)

variable {W : WorkerConfig} {I : IssuerConfig} {ι κ : Type}

/-- What an await of a worker adds to the history; a failed insert adds nothing. -/
def workerEvent (stage : Stage W) : WorkerAction → Option AttemptEvent
  | .record outcome =>
    match stage with
    | .prepared _ _ id _ => if outcome = .failed then none else some (.made id)
    | _ => none
  | .sign _ =>
    match stage with
    | .journaled _ id event => some (.signed id (signerRequest event).idempotencyKey)
    | _ => none
  | .submit (.ok _) =>
    match stage with
    | .signed _ id _ => some (.reported id)
    | _ => none
  | .markBroadcast _ outcome =>
    match stage with
    | .submitted _ id _ => if outcome = .done then none else some (.unmarked id)
    | _ => none
  | _ => none

/-- The same for a call of the issuer. -/
def issuerEvent (stage : IssuerStage) : IssuerAction I → Option AttemptEvent
  | .record outcome =>
    match stage with
    | .prepared record _ => if outcome = .failed then none else some (.made record.id)
    | _ => none
  | .sign _ =>
    match stage with
    | .journaled id event => some (.signed id (signerRequest event).idempotencyKey)
    | _ => none
  | .submit (.ok _) =>
    match stage with
    | .signed id _ => some (.reported id)
    | _ => none
  | .markBroadcast _ outcome =>
    match stage with
    | .submitted id _ => if outcome = .done then none else some (.unmarked id)
    | _ => none
  | _ => none

def ServiceSys.event (S : ServiceSys W ι κ) : ServiceLabel I ι κ → Option AttemptEvent
  | .publisher (.worker i action) => workerEvent (S.workers.stage i) action
  | .publisher _ => none
  | .issuer k action => issuerEvent (S.issuers k) action

/-- The intent that a step marks as failed, in a call of the store that commits. -/
def ServiceSys.marksFailed (S : ServiceSys W ι κ) : ServiceLabel I ι κ → Option Uuid
  | .publisher (.worker i (.markRetryableFailure _ _ outcome)) =>
    match S.workers.stage i with
    | .failing _ id _ _ => if outcome = .failed then none else id
    | _ => none
  | .issuer k (.markFailed _ outcome) =>
    match S.issuers k with
    | .failing id _ _ => if outcome = .failed then none else some id
    | _ => none
  | _ => none

section

variable [DecidableEq ι] [DecidableEq κ]

inductive ServiceStep (W : WorkerConfig) (I : IssuerConfig) (source : String) :
    ServiceSys W ι κ → ServiceLabel I ι κ → ServiceSys W ι κ → Prop where
  | publisher {S : ServiceSys W ι κ} {l : WorkerLabel ι} {workers : WorkerSys W ι}
      (h : WorkerStep W source S.workers l workers) :
      ServiceStep W I source S (.publisher l)
        ⟨workers, S.issuers, S.log.add (S.event (I := I) (.publisher l))⟩
  | issuer {S : ServiceSys W ι κ} {k : κ} {action : IssuerAction I} {journal : Journal}
      {stage : IssuerStage}
      (h : publishStep S.workers.journal (S.issuers k) action = some (journal, stage)) :
      ServiceStep W I source S (.issuer k action)
        ⟨{ S.workers with journal := journal }, Function.update S.issuers k stage,
          S.log.add (S.event (.issuer k action))⟩

end

/-- A fresh database, idle workers and no call of the issuer. -/
def ServiceSys.start (W : WorkerConfig) (ι κ : Type) (game : Projector.GameTables) :
    ServiceSys W ι κ := ⟨.start W ι game, fun _ => .idle, ⟨[], [], [], []⟩⟩

/-! ### The law -/

/-- A step that marks no intent as failed for which a call of `markBroadcast` raised. -/
def MarksUnraised (t : Transition (ServiceSys W ι κ) (ServiceLabel I ι κ)) : Prop :=
  ∀ id, t.pre.marksFailed t.label = some id → id ∉ t.pre.log.unmarked

/-- **Truthful intents**: an intent that an attempt recorded is failed only if the gateway did not
report its transaction as broadcast, and broadcast only if it did; nothing is signed without its
intent, recorded before under the same key; and no key is signed twice. -/
structure TruthfulIntents (ts : List (Transition (ServiceSys W ι κ) (ServiceLabel I ι κ)))
    (S : ServiceSys W ι κ) : Prop where
  failed : ∀ row ∈ S.workers.journal, row.id ∈ S.log.made → row.state = .failed →
    row.id ∉ S.log.reported
  broadcast : ∀ row ∈ S.workers.journal, row.id ∈ S.log.made → row.state = .broadcast →
    row.id ∈ S.log.reported
  recorded : ∀ t ∈ ts, ∀ id key, t.pre.event t.label = some (.signed id key) →
    id ∈ t.pre.log.made ∧ ∃ row ∈ t.pre.workers.journal, row.id = id ∧ row.idempotencyKey = key
  once : (S.log.signed.map Prod.snd).Nodup

/-! ### The write-ahead protocol of the services -/

def entryState : TransactionState → EntryState
  | .awaitingSignature => .pending
  | .broadcast => .done
  | .failed => .failed

/-- The intents as entries. -/
def entries (journal : Journal) (id : Uuid) : Option (String × EntryState) :=
  (journal.find? id).map fun row => (row.idempotencyKey, entryState row.state)

def workerStage : Stage W → AttemptStage Uuid String
  | .journaled _ id event => .recorded id (signerRequest event).idempotencyKey
  | .signed _ id _ => .invoked id
  | .submitted _ id _ => .reported id
  | .failing _ (some id) _ _ => .failing id
  | _ => .outside

def issuerStage : IssuerStage → AttemptStage Uuid String
  | .journaled id event => .recorded id (signerRequest event).idempotencyKey
  | .signed id _ => .invoked id
  | .submitted id _ => .reported id
  | .failing id _ _ => .failing id
  | _ => .outside

/-- The attempts over a journal and a history. -/
def ServiceSys.viewWith (S : ServiceSys W ι κ) (journal : Journal) (log : AttemptLog) :
    WriteAhead (ι ⊕ κ) Uuid String where
  entry := entries journal
  stage := Sum.elim (fun i => workerStage (S.workers.stage i)) fun k => issuerStage (S.issuers k)
  made := log.made
  invoked := log.signed
  reported := log.reported
  unmarked := log.unmarked

def ServiceSys.view (S : ServiceSys W ι κ) : WriteAhead (ι ⊕ κ) Uuid String :=
  S.viewWith S.workers.journal S.log

/-- A prepared attempt was prepared under its key. -/
structure Keyed (S : ServiceSys W ι κ) : Prop where
  worker : ∀ i attempt startedAt id event, S.workers.stage i = .prepared attempt startedAt id event →
    (signerRequest event).idempotencyKey = Publisher.idempotencyKey W attempt
  issuer : ∀ k record event, S.issuers k = .prepared record event →
    (signerRequest event).idempotencyKey = record.idempotencyKey

section

variable {journal journal' : Journal} {id : Uuid}

theorem entries_eq_some {key : String} {state : EntryState} :
    entries journal id = some (key, state) ↔
      ∃ row ∈ journal, row.id = id ∧ row.idempotencyKey = key ∧ entryState row.state = state := by
  simp only [entries, Option.map_eq_some_iff, Table.find?_eq_some, Prod.mk.injEq, and_assoc]

theorem entries_insertIntent {row : TransactionIntentRow}
    (h : insertIntent row journal = .ok journal') :
    entries journal' =
      Function.update (entries journal) row.id (some (row.idempotencyKey, entryState row.state)) := by
  obtain ⟨hrows, hid, -⟩ := insertIntent_eq_ok h
  funext other
  by_cases hother : other = row.id
  · rw [hother, Function.update_self, entries_eq_some]
    refine ⟨row, ?_, rfl, rfl, rfl⟩
    rw [Table.mem_def, hrows]
    exact List.mem_append_right _ (List.mem_singleton_self row)
  · rw [Function.update_of_ne hother]
    have hlast : [row].find? (fun a => a.id = other) = none := by
      rw [List.find?_cons_of_neg (by simpa using fun heq => hother heq.symm), List.find?_nil]
    have hfind : journal'.find? other = journal.find? other := by
      rw [Table.find?, Table.find?, hrows, List.find?_append, hlast, Option.or_none]
    rw [entries, entries, hfind]

theorem fresh_of_insertIntent {row : TransactionIntentRow} {A : WriteAhead (ι ⊕ κ) Uuid String}
    (hA : A.entry = entries journal) (h : insertIntent row journal = .ok journal') :
    A.Fresh row.id row.idempotencyKey := by
  obtain ⟨-, hid, hkey⟩ := insertIntent_eq_ok h
  rw [WriteAhead.Fresh, hA]
  constructor
  · rw [entries, Option.map_eq_none_iff, Table.find?_eq_none]
    exact hid
  · rintro other ⟨key, state⟩ hentry
    obtain ⟨old, hold, -, rfl, -⟩ := entries_eq_some.mp hentry
    exact hkey old hold

theorem entries_modify {q : TransactionIntentRow → Prop} [DecidablePred q]
    (set : Table.Assignment TransactionIntentRow.id) (marked : TransactionState) {key : String}
    {state : EntryState} (hq : ∀ row, q row ↔ row.id = id)
    (hkey : ∀ row, (set row).idempotencyKey = row.idempotencyKey) (hstate : ∀ row, (set row).state = marked)
    (hentry : entries journal id = some (key, state)) :
    entries (journal.modify q set) =
      Function.update (entries journal) id (some (key, entryState marked)) := by
  funext other
  by_cases hother : other = id
  · obtain ⟨row, hrow, hid, hrowKey, -⟩ := entries_eq_some.mp hentry
    rw [hother, Function.update_self, entries_eq_some]
    refine ⟨set row, Table.mem_modify_of hrow ((hq row).mpr hid), (set.keeps row).trans hid,
      (hkey row).trans hrowKey, ?_⟩
    rw [hstate]
  · rw [Function.update_of_ne hother, entries, Table.find?_modify, Option.map_map]
    cases hfind : journal.find? other with
    | none => rw [entries, hfind]; rfl
    | some row =>
      obtain ⟨-, hrow⟩ := Table.find?_eq_some.mp hfind
      have hnot : ¬ q row := fun hqrow => hother (hrow.symm.trans ((hq row).mp hqrow))
      rw [entries, hfind, Option.map_some, Option.map_some, Function.comp_apply, Table.updated_of_not hnot]

/-- A failure before the record leaves the journal as it is. -/
theorem entries_markFailed_none {transactionId : Option String} {code : String} :
    entries (journal.markFailed none transactionId code) = entries journal := by
  funext other
  have hnot : ∀ row : TransactionIntentRow, ¬ none = some row.id := fun _ heq => by cases heq
  rw [entries, Journal.markFailed, Table.find?_modify, Option.map_map, entries]
  refine congrArg (fun f => (journal.find? other).map f) (funext fun row => ?_)
  rw [Function.comp_apply]
  exact congrArg (fun row : TransactionIntentRow => (row.idempotencyKey, entryState row.state))
    (if_neg (hnot row))

end

/-! ### What a step is in the protocol -/

section

variable [DecidableEq ι] [DecidableEq κ] {S : ServiceSys W ι κ} {journal : Journal} {log : AttemptLog}

theorem view_worker {i : ι} {stage : Stage W} {tables : PublicationTables} :
    (⟨(S.workers.write tables journal).to i stage, S.issuers, log⟩ : ServiceSys W ι κ).view =
      (S.viewWith journal log).move (.inl i) (workerStage stage) := by
  have hstage : (fun j => workerStage (((S.workers.write tables journal).to i stage).stage j)) =
      Function.update (fun j => workerStage (S.workers.stage j)) i (workerStage stage) :=
    Function.comp_update workerStage S.workers.stage i stage
  simp only [ServiceSys.view, ServiceSys.viewWith, WriteAhead.move, Sum.update_elim_inl, hstage]
  rfl

theorem view_issuer {k : κ} {stage : IssuerStage} :
    (⟨{ S.workers with journal := journal }, Function.update S.issuers k stage, log⟩ :
        ServiceSys W ι κ).view =
      (S.viewWith journal log).move (.inr k) (issuerStage stage) := by
  have hstage : (fun j => issuerStage (Function.update S.issuers k stage j)) =
      Function.update (fun j => issuerStage (S.issuers j)) k (issuerStage stage) :=
    Function.comp_update issuerStage S.issuers k stage
  simp only [ServiceSys.view, ServiceSys.viewWith, WriteAhead.move, Sum.update_elim_inr, hstage]

variable {p : ι ⊕ κ} {id : Uuid} {key : String} {state : EntryState} {stage : AttemptStage Uuid String}

theorem record_move {row : TransactionIntentRow} (h : insertIntent row S.workers.journal = .ok journal)
    (hstate : row.state = .awaitingSignature)
    (hstage : stage = .recorded row.id row.idempotencyKey ∨ stage = .outside) :
    WriteAhead.Step S.view
      ((S.viewWith journal (S.log.add (some (.made row.id)))).move p stage) := by
  have hview : S.viewWith journal (S.log.add (some (.made row.id))) =
      { S.view.put row.id row.idempotencyKey .pending with made := S.log.made ++ [row.id] } := by
    rw [ServiceSys.viewWith, entries_insertIntent h, hstate]
    rfl
  rw [hview]
  exact .record (fresh_of_insertIntent rfl h) hstage

theorem markDone_move {transactionId : String} (hat : S.view.stage p = .reported id)
    (hentry : S.view.entry id = some (key, state)) :
    WriteAhead.Step S.view
      ((S.viewWith (S.workers.journal.markBroadcast id transactionId) (S.log.add none)).move p .outside) ∧
    WriteAhead.Step S.view ((S.viewWith (S.workers.journal.markBroadcast id transactionId)
      (S.log.add (some (.unmarked id)))).move p (.failing id)) := by
  have hentries : entries (S.workers.journal.markBroadcast id transactionId) =
      Function.update (entries S.workers.journal) id (some (key, .done)) := by
    exact entries_modify ⟨.markBroadcast transactionId, fun _ => rfl⟩ .broadcast (fun _ => Iff.rfl)
      (fun _ => rfl) (fun _ => rfl) hentry
  rw [ServiceSys.viewWith, ServiceSys.viewWith, hentries]
  exact ⟨.markDone hat hentry, .markLost hat hentry⟩

theorem markFailed_move {transactionId : Option String} {code : String}
    (hat : S.view.stage p = .failing id) (hentry : S.view.entry id = some (key, state))
    (hguard : id ∉ S.log.unmarked) :
    WriteAhead.Step S.view ((S.viewWith (S.workers.journal.markFailed (some id) transactionId code)
      (S.log.add none)).move p .outside) := by
  have hentries : entries (S.workers.journal.markFailed (some id) transactionId code) =
      Function.update (entries S.workers.journal) id (some (key, .failed)) := by
    refine entries_modify ⟨.markFailed transactionId code, fun _ => rfl⟩ .failed (fun row => ?_)
      (fun _ => rfl) (fun _ => rfl) hentry
    rw [Option.some.injEq, eq_comm]
  rw [ServiceSys.viewWith, hentries]
  exact .markFailed hat hentry hguard

theorem drop_move : WriteAhead.Step S.view
    ((S.viewWith S.workers.journal (S.log.add none)).move p .outside) := .drop

omit [DecidableEq ι] [DecidableEq κ] in
theorem entry_of_held (hinv : S.view.Inv) (hheld : WriteAhead.held (S.view.stage p) = some id) :
    ∃ key state, S.view.entry id = some (key, state) := by
  obtain ⟨e, hentry⟩ := (hinv.truthful id).entry ((hinv.sound p).made hheld)
  exact ⟨e.1, e.2, hentry⟩

/-- **An await of a call of `publish` is a step of the protocol.** -/
theorem issuer_step {k : κ} {action : IssuerAction I} {stage : IssuerStage} (hinv : S.view.Inv)
    (hkeyed : Keyed S) (h : publishStep S.workers.journal (S.issuers k) action = some (journal, stage))
    (hguard : ∀ id, S.marksFailed (.issuer k action) = some id → id ∉ S.log.unmarked) :
    WriteAhead.Step S.view ((S.viewWith journal
      (S.log.add (issuerEvent (S.issuers k) action))).move (.inr k) (issuerStage stage)) := by
  have hstage : S.view.stage (.inr k) = issuerStage (S.issuers k) := rfl
  cases action with
  | prepare event attemptNumber chain recordId preparedAt =>
    simp only [publishStep] at h
    split at h
    · rename_i hidle
      obtain ⟨rfl, rfl⟩ := Prod.mk.inj (Option.some.inj h)
      have houtside : issuerStage (preparePublication I event attemptNumber chain recordId preparedAt) =
          .outside := by
        unfold preparePublication
        repeat' split
        all_goals rfl
      rw [houtside]
      exact drop_move
    · cases h
  | record outcome =>
    simp only [publishStep] at h
    split at h
    · rename_i record event hprepared
      rw [hprepared]
      cases outcome with
      | done =>
        obtain ⟨journal', hrecord, heq⟩ := Option.map_eq_some_iff.mp h
        obtain ⟨rfl, rfl⟩ := Prod.mk.inj heq
        refine record_move (toOption_eq_some.mp hrecord) rfl (.inl ?_)
        rw [issuerStage, hkeyed.issuer k record event hprepared]
        rfl
      | lost =>
        obtain ⟨journal', hrecord, heq⟩ := Option.map_eq_some_iff.mp h
        obtain ⟨rfl, rfl⟩ := Prod.mk.inj heq
        exact record_move (toOption_eq_some.mp hrecord) rfl (.inr rfl)
      | failed =>
        obtain ⟨rfl, rfl⟩ := Prod.mk.inj (Option.some.inj h)
        exact drop_move
    · cases h
  | sign answer =>
    simp only [publishStep] at h
    split at h
    · rename_i id event hjournaled
      rw [hjournaled] at hstage ⊢
      have hmove : journal = S.workers.journal ∧ (issuerStage stage = .invoked id ∨
          issuerStage stage = .failing id) := by
        split at h
        · obtain ⟨rfl, rfl⟩ := Prod.mk.inj (Option.some.inj h)
          exact ⟨rfl, .inr rfl⟩
        · split at h
          · obtain ⟨rfl, rfl⟩ := Prod.mk.inj (Option.some.inj h)
            exact ⟨rfl, .inr rfl⟩
          · obtain ⟨rfl, rfl⟩ := Prod.mk.inj (Option.some.inj h)
            exact ⟨rfl, .inl rfl⟩
      obtain ⟨rfl, hmove⟩ := hmove
      exact .invoke hstage hmove
    · cases h
  | submit answer =>
    simp only [publishStep] at h
    split at h
    · rename_i id event hsigned
      rw [hsigned] at hstage ⊢
      cases answer with
      | error code =>
        obtain ⟨rfl, rfl⟩ := Prod.mk.inj (Option.some.inj h)
        exact .raise hstage
      | ok done =>
        obtain ⟨rfl, rfl⟩ := Prod.mk.inj (Option.some.inj h)
        exact .report hstage
    · cases h
  | markBroadcast broadcastAt outcome =>
    simp only [publishStep] at h
    split at h
    · rename_i id event hsubmitted
      rw [hsubmitted] at hstage ⊢
      obtain ⟨key, state, hentry⟩ := entry_of_held hinv (by rw [hstage]; rfl)
      cases outcome with
      | done =>
        obtain ⟨rfl, rfl⟩ := Prod.mk.inj (Option.some.inj h)
        exact (markDone_move hstage hentry).1
      | lost =>
        obtain ⟨rfl, rfl⟩ := Prod.mk.inj (Option.some.inj h)
        exact (markDone_move hstage hentry).2
      | failed =>
        obtain ⟨rfl, rfl⟩ := Prod.mk.inj (Option.some.inj h)
        exact .unmarked hstage
    · cases h
  | markFailed failedAt outcome =>
    simp only [publishStep] at h
    split at h
    · rename_i id transactionId code hfailing
      simp only [ServiceSys.marksFailed, hfailing] at hguard
      rw [hfailing] at hstage ⊢
      obtain ⟨key, state, hentry⟩ := entry_of_held hinv (by rw [hstage]; rfl)
      cases outcome with
      | done =>
        obtain ⟨rfl, rfl⟩ := Prod.mk.inj (Option.some.inj h)
        exact markFailed_move hstage hentry (hguard id rfl)
      | lost =>
        obtain ⟨rfl, rfl⟩ := Prod.mk.inj (Option.some.inj h)
        exact markFailed_move hstage hentry (hguard id rfl)
      | failed =>
        obtain ⟨rfl, rfl⟩ := Prod.mk.inj (Option.some.inj h)
        exact drop_move
    · cases h
  | crash =>
    obtain ⟨rfl, rfl⟩ := Prod.mk.inj (Option.some.inj h)
    exact drop_move

theorem view_to {i : ι} {stage : Stage W} :
    (⟨S.workers.to i stage, S.issuers, log⟩ : ServiceSys W ι κ).view =
      (S.viewWith S.workers.journal log).move (.inl i) (workerStage stage) := view_worker

/-- **An await of a worker is a step of the protocol.** -/
theorem worker_step {i : ι} {action : WorkerAction} {workers : WorkerSys W ι} (hinv : S.view.Inv)
    (hkeyed : Keyed S) (h : perform S.workers i action = some workers)
    (hguard : ∀ id, S.marksFailed (I := I) (.publisher (.worker i action)) = some id →
      id ∉ S.log.unmarked) :
    S.view = (⟨workers, S.issuers, S.log.add (workerEvent (S.workers.stage i) action)⟩ :
        ServiceSys W ι κ).view ∨
      WriteAhead.Step S.view (⟨workers, S.issuers,
        S.log.add (workerEvent (S.workers.stage i) action)⟩ : ServiceSys W ι κ).view := by
  have hstage : S.view.stage (.inl i) = workerStage (S.workers.stage i) := rfl
  cases action with
  | claim now =>
    simp only [perform] at h
    split at h
    · obtain ⟨⟨claimed, p⟩, -, h⟩ := Option.map_eq_some_iff.mp h
      cases claimed with
      | none =>
        obtain rfl : S.workers = workers := h
        exact .inl rfl
      | some attempt =>
        obtain rfl : (S.workers.write p S.workers.journal).to i (.claimed attempt now) = workers := h
        rw [view_worker]
        exact .inr drop_move
    · cases h
  | prepare id chain =>
    simp only [perform] at h
    split at h
    · rename_i attempt startedAt hclaimed
      obtain rfl := Option.some.inj h
      have houtside : workerStage (prepareAttempt attempt startedAt id chain) = .outside := by
        rcases prepareAttempt_cases attempt startedAt id chain with
          ⟨transactionId, code, heq⟩ | ⟨event, heq, -⟩ <;> rw [heq] <;> rfl
      rw [view_to, houtside]
      exact .inr drop_move
    · cases h
  | record outcome =>
    simp only [perform] at h
    split at h
    · rename_i attempt startedAt id event hprepared
      rw [hprepared]
      refine .inr ?_
      cases outcome with
      | done =>
        obtain ⟨journal, hrecord, rfl⟩ := Option.map_eq_some_iff.mp h
        rw [view_worker]
        refine record_move (toOption_eq_some.mp hrecord) rfl (.inl ?_)
        rw [workerStage, hkeyed.worker i attempt startedAt id event hprepared]
        rfl
      | lost =>
        obtain ⟨journal, hrecord, rfl⟩ := Option.map_eq_some_iff.mp h
        rw [view_worker]
        exact record_move (toOption_eq_some.mp hrecord) rfl (.inr rfl)
      | failed =>
        obtain rfl := Option.some.inj h
        rw [view_to]
        exact drop_move
    · cases h
  | sign answer =>
    simp only [perform] at h
    split at h
    · rename_i attempt id event hjournaled
      rw [hjournaled] at hstage ⊢
      have hmove : ∃ stage, workers = S.workers.to i stage ∧ (workerStage stage = .invoked id ∨
          workerStage stage = .failing id) := by
        split at h
        · obtain rfl := Option.some.inj h
          exact ⟨_, rfl, .inr rfl⟩
        · split at h
          · obtain rfl := Option.some.inj h
            exact ⟨_, rfl, .inr rfl⟩
          · obtain rfl := Option.some.inj h
            exact ⟨_, rfl, .inl rfl⟩
      obtain ⟨stage, rfl, hmove⟩ := hmove
      rw [view_to]
      exact .inr (.invoke hstage hmove)
    · cases h
  | submit answer =>
    simp only [perform] at h
    split at h
    · rename_i attempt id event hsigned
      rw [hsigned] at hstage ⊢
      refine .inr ?_
      cases answer with
      | error code =>
        obtain rfl := Option.some.inj h
        rw [view_to]
        exact .raise hstage
      | ok done =>
        obtain rfl := Option.some.inj h
        rw [view_to]
        exact .report hstage
    · cases h
  | markBroadcast broadcastAt outcome =>
    simp only [perform] at h
    split at h
    · rename_i attempt id event hsubmitted
      rw [hsubmitted] at hstage ⊢
      obtain ⟨key, state, hentry⟩ := entry_of_held hinv (by rw [hstage]; rfl)
      refine .inr ?_
      cases outcome with
      | done =>
        simp only [Option.map_map, Option.map_eq_some_iff] at h
        obtain ⟨p, -, rfl⟩ := h
        rw [Function.comp_apply, view_worker]
        exact (markDone_move hstage hentry).1
      | lost =>
        simp only [Option.map_map, Option.map_eq_some_iff] at h
        obtain ⟨p, -, rfl⟩ := h
        rw [Function.comp_apply, view_worker]
        exact (markDone_move hstage hentry).2
      | failed =>
        obtain rfl := Option.some.inj h
        rw [view_to]
        exact .unmarked hstage
    · cases h
  | markRetryableFailure failedAt now outcome =>
    simp only [perform] at h
    split at h
    · rename_i attempt id transactionId code hfailing
      simp only [ServiceSys.marksFailed, hfailing] at hguard
      rw [hfailing] at hstage ⊢
      refine .inr ?_
      have hmark : outcome ≠ .failed → ∀ p, WriteAhead.Step S.view
          (⟨(S.workers.write p (S.workers.journal.markFailed id transactionId
            (stableFailureCode code))).to i .idle, S.issuers, S.log.add none⟩ : ServiceSys W ι κ).view := by
        intro houtcome p
        rw [if_neg houtcome] at hguard
        rw [view_worker]
        cases id with
        | none =>
          rw [ServiceSys.viewWith, entries_markFailed_none]
          exact drop_move
        | some id =>
          obtain ⟨key, state, hentry⟩ := entry_of_held hinv (by rw [hstage]; rfl)
          exact markFailed_move hstage hentry (hguard id rfl)
      cases outcome with
      | done =>
        simp only [Option.map_map, Option.map_eq_some_iff] at h
        obtain ⟨p, -, rfl⟩ := h
        exact hmark (by decide) p
      | lost =>
        simp only [Option.map_map, Option.map_eq_some_iff] at h
        obtain ⟨p, -, rfl⟩ := h
        exact hmark (by decide) p
      | failed =>
        obtain rfl := Option.some.inj h
        rw [view_to]
        exact drop_move
    · cases h
  | crash =>
    obtain rfl := Option.some.inj h
    rw [view_to]
    exact .inr drop_move

omit [DecidableEq κ] in
theorem prepared_of_perform {workers : WorkerSys W ι} {i j : ι} {action : WorkerAction}
    (h : perform S.workers i action = some workers) {attempt : ClaimedAttempt W}
    {startedAt : Timestamp} {id : Uuid} {event : PreparedOfficialEvent}
    (hj : workers.stage j = .prepared attempt startedAt id event) :
    S.workers.stage j = .prepared attempt startedAt id event ∨ PreparedFor attempt event := by
  have hmoved : ∀ {sys : WorkerSys W ι} {stage : Stage W}, sys.stage = S.workers.stage →
      (sys.to i stage).stage j = .prepared attempt startedAt id event →
        S.workers.stage j = .prepared attempt startedAt id event ∨
          stage = .prepared attempt startedAt id event := by
    intro sys stage hsame hj
    by_cases hji : j = i
    · subst hji
      rw [to_stage_self] at hj
      exact .inr hj
    · rw [to_stage_of_ne stage hji, hsame] at hj
      exact .inl hj
  have hperformed := performed_of_perform h
  cases hperformed with
  | nothing => exact .inl hj
  | @prepare id' chain attempt' startedAt' hclaimed =>
    rcases hmoved rfl hj with hj | hj
    · exact .inl hj
    · rcases prepareAttempt_cases attempt' startedAt' id' chain with
        ⟨transactionId, code, heq⟩ | ⟨event', heq, hprepared⟩
      · rw [heq] at hj
        cases hj
      · rw [heq] at hj
        cases hj
        exact .inr hprepared
  | claim | raise | sign | submit | markRetryableFailure | drop =>
    exact .inl ((hmoved rfl hj).resolve_right (fun heq => by cases heq))
  | record _ _ hstage =>
    refine .inl ((hmoved rfl hj).resolve_right fun heq => ?_)
    rcases hstage with ⟨-, rfl⟩ | ⟨-, _, _, rfl⟩ <;> cases heq
  | markBroadcast _ _ _ hstage =>
    refine .inl ((hmoved rfl hj).resolve_right fun heq => ?_)
    rcases hstage with rfl | ⟨_, _, rfl⟩ <;> cases heq

omit [DecidableEq ι] [DecidableEq κ] in
/-- A call of `publish` prepares its transaction under the key of its record. -/
theorem prepared_of_publishStep {journal' : Journal} {before : IssuerStage} {action : IssuerAction I}
    {record : CollectibleSigningRecord} {event : PreparedOfficialEvent}
    (h : publishStep journal before action = some (journal', .prepared record event)) :
    (signerRequest event).idempotencyKey = record.idempotencyKey := by
  cases action with
  | prepare value attemptNumber chain recordId preparedAt =>
    simp only [publishStep] at h
    split at h
    · have hprepared := (Prod.mk.inj (Option.some.inj h)).2
      unfold preparePublication at hprepared
      split at hprepared
      · cases hprepared
      · split at hprepared
        · rename_i hok
          obtain ⟨rfl, rfl⟩ := IssuerStage.prepared.inj hprepared
          exact (prepareOfficialEvent_eq_ok hok).1
        · cases hprepared
    · cases h
  | record outcome =>
    simp only [publishStep] at h
    split at h
    · cases outcome with
      | done | lost =>
        obtain ⟨_, -, heq⟩ := Option.map_eq_some_iff.mp h
        cases (Prod.mk.inj heq).2
      | failed => cases (Prod.mk.inj (Option.some.inj h)).2
    · cases h
  | sign | submit | markBroadcast | markFailed =>
    simp only [publishStep] at h
    repeat' split at h
    all_goals cases h
  | crash => cases (Prod.mk.inj (Option.some.inj h)).2

omit [DecidableEq ι] [DecidableEq κ] in
/-- Who sends a request to the signer holds the intent of this key. -/
theorem recorded_of_signed {l : ServiceLabel I ι κ} {id : Uuid} {key : String}
    (h : S.event l = some (.signed id key)) : ∃ p, S.view.stage p = .recorded id key := by
  cases l with
  | publisher l =>
    cases l with
    | other l => cases h
    | otherIntent row => cases h
    | worker i action =>
      simp only [ServiceSys.event] at h
      unfold workerEvent at h
      repeat' split at h
      all_goals cases h
      rename_i hstage
      exact ⟨.inl i, congrArg workerStage hstage⟩
  | issuer k action =>
    simp only [ServiceSys.event] at h
    unfold issuerEvent at h
    repeat' split at h
    all_goals cases h
    rename_i hstage
    exact ⟨.inr k, congrArg issuerStage hstage⟩

theorem keyed_step {source : String} {l : ServiceLabel I ι κ} {S' : ServiceSys W ι κ} (h : Keyed S)
    (hstep : ServiceStep W I source S l S') : Keyed S' := by
  cases hstep with
  | @publisher l workers hl =>
    refine ⟨fun i attempt startedAt id event hi => ?_, h.issuer⟩
    cases hl with
    | other => exact h.worker i attempt startedAt id event hi
    | otherIntent => exact h.worker i attempt startedAt id event hi
    | worker hperform =>
      rcases prepared_of_perform hperform hi with hi | hprepared
      · exact h.worker i attempt startedAt id event hi
      · exact hprepared.key
  | @issuer k action journal stage hpublish =>
    refine ⟨h.worker, fun k' record event hk' => ?_⟩
    change Function.update S.issuers k stage k' = .prepared record event at hk'
    by_cases hk : k' = k
    · rw [hk, Function.update_self] at hk'
      rw [hk'] at hpublish
      exact prepared_of_publishStep hpublish
    · rw [Function.update_of_ne hk] at hk'
      exact h.issuer k' record event hk'

/-! ### Runs -/

/-- A step that marks no intent wrongly keeps the invariant of the protocol. -/
theorem inv_step {source : String} {l : ServiceLabel I ι κ} {S' : ServiceSys W ι κ}
    (h : S.view.Inv ∧ Keyed S) (hguard : MarksUnraised ⟨S, l, S'⟩)
    (hstep : ServiceStep W I source S l S') : S'.view.Inv ∧ Keyed S' := by
  obtain ⟨hinv, hkeyed⟩ := h
  refine ⟨?_, keyed_step hkeyed hstep⟩
  cases hstep with
  | @publisher l workers hl =>
    cases hl with
    | other => exact hinv
    | @otherIntent row journal hinsert =>
      have hview : (⟨{ S.workers with journal := journal }, S.issuers, S.log⟩ : ServiceSys W ι κ).view =
          S.view.put row.id row.idempotencyKey (entryState row.state) := by
        rw [ServiceSys.view, ServiceSys.viewWith, entries_insertIntent hinsert]
        rfl
      have hstep : WriteAhead.Step S.view (S.view.put row.id row.idempotencyKey (entryState row.state)) :=
        .insert (fresh_of_insertIntent rfl hinsert)
      rw [← hview] at hstep
      exact hinv.step hstep
    | @worker _ i action hperform =>
      rcases worker_step (I := I) hinv hkeyed hperform hguard with hview | hmove
      · exact hview ▸ hinv
      · exact hinv.step hmove
  | @issuer k action journal stage hpublish =>
    rw [view_issuer]
    exact hinv.step (issuer_step hinv hkeyed hpublish hguard)

omit [DecidableEq ι] [DecidableEq κ] in
theorem inv_start (game : Projector.GameTables) :
    (ServiceSys.start W ι κ game).view.Inv ∧ Keyed (ServiceSys.start W ι κ game) := by
  have hnone : ∀ id, entries Table.empty id = none := fun _ => rfl
  have hstage : ∀ p, (ServiceSys.start W ι κ game).view.stage p = .outside := by
    rintro (i | k) <;> rfl
  refine ⟨⟨fun p => ?_, fun p q id hp => ?_, fun id => ?_, fun id other e e' he => ?_, List.nodup_nil⟩,
    ⟨fun _ _ _ _ _ hi => (by cases hi), fun _ _ _ hk => (by cases hk)⟩⟩
  · rw [hstage p]
    exact trivial
  · rw [hstage p] at hp
    cases hp
  · exact ⟨fun hmem => absurd hmem List.not_mem_nil, fun _ hmem => absurd hmem List.not_mem_nil,
      fun hmem => absurd hmem List.not_mem_nil, fun _ _ hmem => absurd hmem List.not_mem_nil,
      fun _ _ hmem => absurd hmem List.not_mem_nil⟩
  · cases (hnone id).symm.trans he

/-- **The intents are truthful**: in every run of the workers of the match publisher and the calls of
the collectible issuer that marks no intent as failed after a call of `markBroadcast` raised for it. -/
theorem intents_truthful {source : String} {game : Projector.GameTables}
    {ts : List (Transition (ServiceSys W ι κ) (ServiceLabel I ι κ))}
    (hrun : Run (ServiceStep W I source) (.start W ι κ game) ts S) (hmarks : ∀ t ∈ ts, MarksUnraised t) :
    TruthfulIntents ts S := by
  obtain ⟨⟨hinv, -⟩, hall⟩ := hrun.invariant (I := fun S => S.view.Inv ∧ Keyed S)
    (G := MarksUnraised) (fun m l m' h hguard hstep => inv_step h hguard hstep) (inv_start game) hmarks
  have hentry : ∀ row ∈ S.workers.journal,
      S.view.entry row.id = some (row.idempotencyKey, entryState row.state) :=
    fun row hrow => entries_eq_some.mpr ⟨row, hrow, rfl, rfl, rfl⟩
  refine ⟨fun row hrow hmade hstate => ?_, fun row hrow hmade hstate => ?_,
    fun t ht id key hsigned => ?_, hinv.keys_once⟩
  · have he := hentry row hrow
    rw [hstate] at he
    exact (hinv.truthful row.id).failed _ he hmade
  · have he := hentry row hrow
    rw [hstate] at he
    exact (hinv.truthful row.id).done _ he hmade
  · obtain ⟨⟨hpre, -⟩, -⟩ := hall t ht
    obtain ⟨p, hat⟩ := recorded_of_signed hsigned
    have hsound := hpre.sound p
    rw [hat] at hsound
    obtain ⟨hmade, hentry, -⟩ := hsound
    obtain ⟨row, hrow, hid, hkey, -⟩ := entries_eq_some.mp hentry
    exact ⟨hmade, row, hrow, hid, hkey⟩

end

/-! ### Attempts of both services -/

section

variable [DecidableEq ι] [DecidableEq κ]

/-- Executes a step, the projector's with acknowledged calls at a given time. -/
def ServiceSys.exec (source : String) (time : Timestamp) (S : ServiceSys W ι κ) :
    ServiceLabel I ι κ → Option (ServiceSys W ι κ)
  | .publisher l => (S.workers.exec source time l).map fun workers =>
      ⟨workers, S.issuers, S.log.add (S.event (I := I) (.publisher l))⟩
  | .issuer k action => (publishStep S.workers.journal (S.issuers k) action).map fun moved =>
      ⟨{ S.workers with journal := moved.1 }, Function.update S.issuers k moved.2,
        S.log.add (S.event (.issuer k action))⟩

theorem ServiceSys.exec_sound {source : String} {time : Timestamp} (S : ServiceSys W ι κ)
    (l : ServiceLabel I ι κ) (S' : ServiceSys W ι κ) (h : S.exec source time l = some S') :
    ServiceStep W I source S l S' := by
  cases l with
  | publisher l =>
    obtain ⟨workers, hworkers, rfl⟩ := Option.map_eq_some_iff.mp h
    exact .publisher (WorkerSys.exec_sound _ _ _ hworkers)
  | issuer k action =>
    obtain ⟨⟨journal, stage⟩, hmoved, rfl⟩ := Option.map_eq_some_iff.mp h
    exact .issuer hmoved

end

abbrev issuerConfig : IssuerConfig where
  codec :=
    { Value := HiveChameleonEvent
      parseJson := fun text => if text = "revocation" then some revokedEvent else none
      safeParse := fun value => some value
      canonicalJson := fun _ => "revocation"
      event := id }
  sha256Hex := fun _ => exampleDigest
  authorization := issuerAuthorization
  expirationMs := 300000
  uuidText := fun id => toString id.val

/-- What the chain adapter prepares for the revocation. -/
def preparedRevocation : PreparedChainTransaction where
  unsignedTransactionJson := "transaction"
  signatureDigest := exampleDigest
  transactionId := "tx2"
  canonicalOperationJson := canonicalCustomJsonOperation (officialOperation "issuer" "revocation")

/-- A call of `publish` for the revocation, up to its first call of the journal. -/
def revoke (attemptNumber : ℤ) (id : Uuid) : IssuerAction issuerConfig :=
  .prepare revokedEvent attemptNumber (.ok preparedRevocation) (some id) 20

def signedRevocation : Except String IsolatedSignerResponse :=
  .ok ⟨"signature", "STM6issuerissuerissuer"⟩

abbrev ExampleSys := ServiceSys workerConfig Bool ℕ

abbrev ExampleLabel := ServiceLabel issuerConfig Bool ℕ

def followServices (schedule : List ExampleLabel) :
    Option (List (Transition ExampleSys ExampleLabel) × ExampleSys) :=
  replay (ServiceSys.exec "haf" 1000) (.start workerConfig Bool ℕ Projector.emptyGame) schedule

theorem followServices_run {schedule : List ExampleLabel}
    {ts : List (Transition ExampleSys ExampleLabel)} {S : ExampleSys}
    (h : followServices schedule = some (ts, S)) :
    Run (ServiceStep workerConfig issuerConfig "haf") (.start workerConfig Bool ℕ Projector.emptyGame)
      ts S :=
  (replay_run ServiceSys.exec_sound h).1

def marksUnraised (t : Transition ExampleSys ExampleLabel) : Bool :=
  (t.pre.marksFailed t.label).all fun id => id ∉ t.pre.log.unmarked

theorem marksUnraised_sound {t : Transition ExampleSys ExampleLabel} (h : marksUnraised t = true) :
    MarksUnraised t := by
  intro id hid
  rw [marksUnraised, hid, Option.all_some] at h
  exact of_decide_eq_true h

/-- A worker publishes its batch.  The signer refuses a revocation, which is marked as failed; the
same attempt is not recorded again, the next one is broadcast. -/
def revokedSchedule : List ExampleLabel :=
  (frozenSchedule ++ publishSchedule true 10 ⟨51⟩ ++
      [WorkerLabel.worker true (.markBroadcast 12 .done)]).map .publisher ++
    [.issuer 0 (revoke 1 ⟨61⟩), .issuer 0 (.record .done), .issuer 0 (.sign (.error "signer_unavailable")),
      .issuer 0 (.markFailed 21 .done), .issuer 1 (revoke 1 ⟨62⟩), .issuer 1 (.record .failed),
      .issuer 1 (revoke 2 ⟨63⟩), .issuer 1 (.record .done), .issuer 1 (.sign signedRevocation),
      .issuer 1 (.submit (.ok ())), .issuer 1 (.markBroadcast 22 .done)]

theorem intents_truthful_revocation :
    ∃ ts S, Run (ServiceStep workerConfig issuerConfig "haf")
        (.start workerConfig Bool ℕ Projector.emptyGame) ts S ∧
      S.workers.journal.rows.map (·.state) = [.broadcast, .failed, .broadcast] ∧
        S.log.signed.length = 3 ∧ TruthfulIntents ts S := by
  have hfollow : (followServices revokedSchedule).any (fun r =>
      r.2.workers.journal.rows.map (·.state) = [.broadcast, .failed, .broadcast] ∧
        r.2.log.signed.length = 3 ∧ ∀ t ∈ r.1, marksUnraised t = true) = true := by decide +kernel
  obtain ⟨⟨ts, S⟩, hrun, hchecks⟩ := (Option.any_eq_true _ _).mp hfollow
  obtain ⟨hstates, hsigned, hall⟩ := of_decide_eq_true hchecks
  have hrun := followServices_run hrun
  exact ⟨ts, S, hrun, hstates, hsigned,
    intents_truthful hrun fun t ht => marksUnraised_sound (hall t ht)⟩

/-- The gateway reports the broadcast, the call of `markBroadcast` raises, and the intent is marked as
failed. -/
theorem intents_not_truthful :
    ∃ ts S, Run (ServiceStep workerConfig issuerConfig "haf")
        (.start workerConfig Bool ℕ Projector.emptyGame) ts S ∧ ¬ TruthfulIntents ts S := by
  have hfollow : (followServices [.issuer 0 (revoke 1 ⟨61⟩), .issuer 0 (.record .done),
      .issuer 0 (.sign signedRevocation), .issuer 0 (.submit (.ok ())),
      .issuer 0 (.markBroadcast 21 .failed), .issuer 0 (.markFailed 22 .done)]).any
        (fun r => r.2.workers.journal.rows.any (fun row => row.id ∈ r.2.log.made ∧
          row.state = .failed ∧ row.id ∈ r.2.log.reported)) = true := by decide +kernel
  obtain ⟨⟨ts, S⟩, hrun, hany⟩ := (Option.any_eq_true _ _).mp hfollow
  obtain ⟨row, hrow, hchecks⟩ := List.any_eq_true.mp hany
  obtain ⟨hmade, hstate, hreported⟩ := of_decide_eq_true hchecks
  exact ⟨ts, S, followServices_run hrun, fun h => h.failed row hrow hmade hstate hreported⟩

end HiveChameleon.Issuer
