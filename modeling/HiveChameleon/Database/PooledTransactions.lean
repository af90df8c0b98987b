import HiveChameleon.Lib.Rely

/-!
# Database.PooledTransactions — transactions on the connections of a pool

`withTransaction` of `client.ts`, and `inTransaction` of the stores of the workers over the adapters that
set the role of a worker.  Any number of calls share a pool; every query can fail before or after the
server ran it, and connections break.  A connection is back in the pool only outside of a transaction, no
call uses the connection of another, and what a call writes is inside its own transaction.
-/

namespace HiveChameleon.Database

open Lib

/-! ### Statements -/

inductive TransactionIsolation where
  | readCommitted | repeatableRead | serializable
deriving DecidableEq, Repr

structure TransactionOptions where
  isolation : TransactionIsolation
  readOnly : Bool
deriving DecidableEq, Repr

def TransactionIsolation.clause : TransactionIsolation → String
  | .readCommitted => "READ COMMITTED"
  | .repeatableRead => "REPEATABLE READ"
  | .serializable => "SERIALIZABLE"

def buildBeginStatement (options : TransactionOptions) : String :=
  "BEGIN ISOLATION LEVEL " ++ options.isolation.clause ++ if options.readOnly then " READ ONLY" else ""

def projectorDatabaseRole : String := "hc_projector"

def matchPublisherDatabaseRole : String := "hc_match_publisher"

/-- What PostgreSQL takes a text for; everything that is not about transactions and roles is work. -/
inductive Command where
  | begin (options : TransactionOptions)
  | commit
  | rollback
  | setRole (role : String)
  | currentRole
  | work
deriving DecidableEq, Repr

/-- How PostgreSQL reads texts: it may read any text as any command, and it reads the texts of this code
as what they say. -/
class Reading where
  command : String → Command
  begin_plain : command "BEGIN" = .begin ⟨.readCommitted, false⟩
  begin_isolation (options : TransactionOptions) : command (buildBeginStatement options) = .begin options
  commit : command "COMMIT" = .commit
  rollback : command "ROLLBACK" = .rollback
  setRole_projector : command ("SET ROLE " ++ projectorDatabaseRole) = .setRole projectorDatabaseRole
  setRole_publisher : command ("SET ROLE " ++ matchPublisherDatabaseRole) =
    .setRole matchPublisherDatabaseRole
  currentRole : command "SELECT current_role" = .currentRole

open Reading (command)

/-! ### The server and the pool -/

structure Transaction where
  options : TransactionOptions
  /-- A statement was refused; the server refuses everything up to the end of the transaction. -/
  aborted : Bool
deriving DecidableEq, Repr

/-- One connection, as the server has it. -/
structure Session where
  alive : Bool
  role : String
  transaction : Option Transaction
deriving DecidableEq, Repr

namespace Session

/-- The server runs the command instead of refusing it. -/
def Accepts (session : Session) (command : Command) : Prop :=
  session.alive = true ∧
    (session.transaction.any Transaction.aborted = true → command = .commit ∨ command = .rollback)

instance (session : Session) (command : Command) : Decidable (session.Accepts command) :=
  inferInstanceAs (Decidable (_ ∧ (_ → _)))

def execute (session : Session) : Command → Session
  | .begin options =>
    match session.transaction with
    | none => { session with transaction := some ⟨options, false⟩ }
    | some _ => session
  | .commit => { session with transaction := none }
  | .rollback => { session with transaction := none }
  | .setRole role => { session with role := role }
  | .currentRole => session
  | .work => session

/-- A refused COMMIT ends the transaction as well. -/
def refuse (session : Session) : Command → Session
  | .commit => { session with transaction := none }
  | .rollback => { session with transaction := none }
  | _ => { session with transaction := session.transaction.map fun t => { t with aborted := true } }

end Session

/-- Where the pool has a connection. -/
inductive Lease (ι : Type) where
  | pooled
  | leased (caller : ι)
  | closed
deriving DecidableEq

/-- A statement that the server ran for a caller. -/
structure Executed (ι V : Type) where
  caller : Option ι
  role : String
  options : Option TransactionOptions
  text : String
  values : List V

structure Pool (ι V : Type) where
  lease : ℕ → Lease ι
  session : ℕ → Session
  executed : List (Executed ι V)
  /-- The callers whose transaction the server has committed. -/
  committed : List ι
  /-- The callers for whom the server has refused a statement. -/
  refused : List ι

abbrev Row := List (String × String)

structure SqlQueryResult where
  rows : List Row
  rowCount : Option ℕ

inductive Request (ι V : Type) where
  | connect (caller : ι)
  | query (client : ℕ) (text : String) (values : List V)
  | release (client : ℕ) (destroy : Bool)

def Request.Response {ι V : Type} : Request ι V → Type
  | connect _ => ℕ
  | query _ _ _ => SqlQueryResult
  | release _ _ => Unit

/-- What a query throws, and what the adapters make of it. -/
inductive DatabaseError (E : Type) where
  | raised (error : E)
  | notActivated
  | unavailable (cause : DatabaseError E)
deriving DecidableEq

section

variable [Reading] {ι V E : Type}

def Lease.caller : Lease ι → Option ι
  | .leased caller => some caller
  | _ => none

namespace Pool

variable (pool : Pool ι V)

def setSession (client : ℕ) (session : Session) : Pool ι V :=
  { pool with session := Function.update pool.session client session }

def setLease (client : ℕ) (lease : Lease ι) : Pool ι V :=
  { pool with lease := Function.update pool.lease client lease }

/-- The role of a connection that has just been opened. -/
def loginRole : String := "login"

def openClient (client : ℕ) (caller : ι) : Pool ι V :=
  (pool.setSession client ⟨true, loginRole, none⟩).setLease client (.leased caller)

/-- The server runs a statement. -/
def execute (client : ℕ) (text : String) (values : List V) : Pool ι V :=
  let session := pool.session client
  let caller := (pool.lease client).caller
  let pool' := pool.setSession client (session.execute (command text))
  match command text with
  | .work =>
    { pool' with
      executed := pool.executed ++
        [⟨caller, session.role, session.transaction.map Transaction.options, text, values⟩] }
  | .commit =>
    if session.transaction.any fun t => !t.aborted then
      { pool' with committed := pool.committed ++ caller.toList }
    else pool'
  | _ => pool'

/-- The server refuses a statement. -/
def refuse (client : ℕ) (text : String) : Pool ι V :=
  let pool' := pool.setSession client ((pool.session client).refuse (command text))
  if command text = .work then { pool' with refused := pool.refused ++ (pool.lease client).caller.toList }
  else pool'

/-- The connection breaks, and the server ends its transaction. -/
def drop (client : ℕ) : Pool ι V :=
  pool.setSession client { pool.session client with alive := false, transaction := none }

/-- `client.release(destroy)`; a connection that is destroyed breaks. -/
def giveBack (client : ℕ) (destroy : Bool) : Pool ι V :=
  if destroy then (pool.drop client).setLease client .closed else pool.setLease client .pooled

end Pool

/-- The result of `SELECT current_role` shows the role. -/
def Shows (session : Session) (text : String) (result : SqlQueryResult) : Prop :=
  command text = .currentRole → result.rows.head?.bind (fun row => row.lookup "current_role") = some session.role

/-- What a request can be answered, and what has happened then. -/
inductive Answers : (q : Request ι V) → Pool ι V → Except (DatabaseError E) q.Response → Pool ι V → Prop where
  | pooled {s : Pool ι V} {i : ι} {c : ℕ} (h : s.lease c = .pooled) :
      Answers (.connect i) s (.ok c) (s.setLease c (.leased i))
  | opened {s : Pool ι V} {i : ι} {c : ℕ} (h : s.lease c = .closed) :
      Answers (.connect i) s (.ok c) (s.openClient c i)
  | unreachable {s : Pool ι V} {i : ι} (e : E) : Answers (.connect i) s (.error (.raised e)) s
  | done {s : Pool ι V} {c : ℕ} {text : String} {values : List V} {result : SqlQueryResult}
      (h : (s.session c).Accepts (command text)) (hresult : Shows (s.session c) text result) :
      Answers (.query c text values) s (.ok result) (s.execute c text values)
  | unanswered {s : Pool ι V} {c : ℕ} {text : String} {values : List V} (e : E)
      (h : (s.session c).Accepts (command text)) :
      Answers (.query c text values) s (.error (.raised e)) (s.execute c text values)
  | refused {s : Pool ι V} {c : ℕ} {text : String} {values : List V} (e : E)
      (h : (s.session c).alive = true) :
      Answers (.query c text values) s (.error (.raised e)) (s.refuse c text)
  | unsent {s : Pool ι V} {c : ℕ} {text : String} {values : List V} (e : E) :
      Answers (.query c text values) s (.error (.raised e)) s
  | released {s : Pool ι V} {c : ℕ} {destroy : Bool} {i : ι} (h : s.lease c = .leased i) :
      Answers (.release c destroy) s (.ok ()) (s.giveBack c destroy)
  -- the pool keeps no connection that has come of age
  | discarded {s : Pool ι V} {c : ℕ} {i : ι} (h : s.lease c = .leased i) :
      Answers (.release c false) s (.ok ()) (s.giveBack c true)
  | notLeased {s : Pool ι V} {c : ℕ} {destroy : Bool} (e : E) (h : ∀ i, s.lease c ≠ .leased i) :
      Answers (.release c destroy) s (.error (.raised e)) s

/-- What happens by itself: a connection breaks, or the pool closes one that has been idle for long. -/
inductive Env : Pool ι V → Pool ι V → Prop where
  | broken {s : Pool ι V} (c : ℕ) : Env s (s.drop c)
  | expired {s : Pool ι V} {c : ℕ} (h : s.lease c = .pooled) : Env s (s.giveBack c true)

/-! ### The code -/

abbrev DbProg (ι V E α : Type) := Prog (Request ι V) Request.Response (DatabaseError E) α

def ask (q : Request ι V) : DbProg ι V E q.Response := Prog.request q

def connect (caller : ι) : DbProg ι V E ℕ := ask (.connect caller)

def query (client : ℕ) (text : String) (values : List V) : DbProg ι V E SqlQueryResult :=
  ask (.query client text values)

def release (client : ℕ) (destroy : Bool) : DbProg ι V E Unit := ask (.release client destroy)

/-- `rollbackQuietly` -/
def rollbackQuietly (client : ℕ) : DbProg ι V E Bool :=
  Prog.orElse (do
    let _ ← query client "ROLLBACK" []
    pure true) fun _ => pure false

/-- The `try`, `catch` and `finally` around a transaction; `released` says what the `catch` did. -/
def transaction {α : Type} (connect : DbProg ι V E ℕ) (beginStatement : String)
    (work : ℕ → DbProg ι V E α) : DbProg ι V E α := do
  let client ← connect
  let (outcome, released) ← Prog.orElse (do
    let _ ← query client beginStatement []
    let result ← work client
    let _ ← query client "COMMIT" []
    pure (Except.ok result, false)) fun error => do
      let rolledBack ← rollbackQuietly client
      if rolledBack then pure (.error error, false)
      else do
        release client true
        pure (.error error, true)
  if released then Prog.lift outcome
  else do
    release client false
    Prog.lift outcome

def withTransaction {α : Type} (caller : ι) (work : ℕ → DbProg ι V E α) (options : TransactionOptions) :
    DbProg ι V E α :=
  transaction (connect caller) (buildBeginStatement options) work

/-- `connect` of the adapters of the workers, with the role of the worker; `giveUp` is what the adapter
does with a connection that did not take the role. -/
def connectAs (role : String) (giveUp : ℕ → DbProg ι V E Unit) (caller : ι) : DbProg ι V E ℕ := do
  let client ← Prog.orElse (connect caller) fun error => .throw (.unavailable error)
  Prog.orElse (do
    let _ ← query client ("SET ROLE " ++ role) []
    let result ← query client "SELECT current_role" []
    if result.rows.head?.bind (fun row => row.lookup "current_role") = some role then pure client
    else .throw .notActivated) fun error => do
      giveUp client
      .throw (.unavailable error)

/-- The release stands in a `try` of its own, and what it throws is dropped. -/
def PgProjectionPoolAdapter.connect (caller : ι) : DbProg ι V E ℕ :=
  connectAs projectorDatabaseRole (fun client => Prog.orElse (release client true) fun _ => pure ())
    caller

def PgMatchPublisherPoolAdapter.connect (caller : ι) : DbProg ι V E ℕ :=
  connectAs matchPublisherDatabaseRole (fun client => release client true) caller

namespace PostgresProjectionStore

def inTransaction {α : Type} (caller : ι) (work : ℕ → DbProg ι V E α) : DbProg ι V E α :=
  transaction (PgProjectionPoolAdapter.connect caller) "BEGIN" work

end PostgresProjectionStore

namespace PostgresPublicationStore

def inTransaction {α : Type} (caller : ι) (work : ℕ → DbProg ι V E α) (serializable : Bool) :
    DbProg ι V E α :=
  transaction (PgMatchPublisherPoolAdapter.connect caller)
    (if serializable then "BEGIN ISOLATION LEVEL SERIALIZABLE" else "BEGIN") work

end PostgresPublicationStore

/-- A call of one of the three. -/
inductive Call (ι V E α : Type) where
  | withTransaction (options : TransactionOptions) (work : ℕ → DbProg ι V E α)
  | projection (work : ℕ → DbProg ι V E α)
  | publication (serializable : Bool) (work : ℕ → DbProg ι V E α)

namespace Call

variable {α : Type}

def run (caller : ι) : Call ι V E α → DbProg ι V E α
  | withTransaction options work => Database.withTransaction caller work options
  | projection work => PostgresProjectionStore.inTransaction caller work
  | publication serializable work => PostgresPublicationStore.inTransaction caller work serializable

def work : Call ι V E α → ℕ → DbProg ι V E α
  | withTransaction _ work => work
  | projection work => work
  | publication _ work => work

/-- The transaction that the call is to have. -/
def options : Call ι V E α → TransactionOptions
  | withTransaction options _ => options
  | projection _ => ⟨.readCommitted, false⟩
  | publication true _ => ⟨.serializable, false⟩
  | publication false _ => ⟨.readCommitted, false⟩

/-- The role that the call is to have, where it asks for one. -/
def role : Call ι V E α → Option String
  | withTransaction _ _ => none
  | projection _ => some projectorDatabaseRole
  | publication _ _ => some matchPublisherDatabaseRole

/-- The work queries the client that it is handed, with no text that PostgreSQL takes for a command about
transactions or roles. -/
def WellBehaved (call : Call ι V E α) : Prop :=
  ∀ c, Prog.Only (fun q => ∃ text values, q = .query c text values ∧ command text = .work) (call.work c)

end Call

end

section

variable {ι V E α : Type} (calls : ι → Call ι V E α)

/-! ### The pool and its callers -/

/-- What holds of the pool at any time. -/
structure Inv (s : Pool ι V) : Prop where
  pooled : ∀ c, s.lease c = .pooled → (s.session c).transaction = none
  broken : ∀ c, (s.session c).alive = false → (s.session c).transaction = none
  executed : ∀ e ∈ s.executed, ∃ i, e.caller = some i ∧ e.options = some (calls i).options ∧
    ∀ role ∈ (calls i).role, e.role = role
  once : s.committed.Nodup

/-- What the others leave alone: the connections of `i`, unless they break, and what is said of `i`. -/
structure Rely (i : ι) (a b : Pool ι V) : Prop where
  inv : Inv calls a → Inv calls b
  lease : ∀ c, a.lease c = .leased i ↔ b.lease c = .leased i
  session : ∀ c, a.lease c = .leased i → (b.session c).alive = true → b.session c = a.session c
  committed : i ∈ a.committed ↔ i ∈ b.committed
  refused : i ∈ a.refused ↔ i ∈ b.refused

/-- The request is the caller's own, or about a connection that it has. -/
def Request.Owned (i : ι) (s : Pool ι V) : Request ι V → Prop
  | connect caller => caller = i
  | query c _ _ => s.lease c = .leased i
  | release c _ => s.lease c = .leased i

structure Guarantee (i : ι) (q : Request ι V) (a b : Pool ι V) : Prop where
  owned : q.Owned i a
  inv : Inv calls a → Inv calls b
  others : ∀ j, j ≠ i → Rely calls j a b

/-- The caller has the connection, and no other. -/
structure Holds (i : ι) (c : ℕ) (s : Pool ι V) : Prop where
  inv : Inv calls s
  lease : s.lease c = .leased i
  only : ∀ c', s.lease c' = .leased i → c' = c

/-- Nothing is said of the caller yet. -/
def Fresh (i : ι) (s : Pool ι V) : Prop := i ∉ s.committed ∧ i ∉ s.refused

/-- The connection has the role of the call. -/
def HasRole (i : ι) (session : Session) : Prop := ∀ role ∈ (calls i).role, session.role = role

/-- What a call that has ended leaves: no connection, and, when it returned, a transaction that was
committed unless a statement was refused. -/
def Ended (i : ι) (r : Except (DatabaseError E) α) (s : Pool ι V) : Prop :=
  (∀ c, s.lease c ≠ .leased i) ∧ ∀ a, r = .ok a → (i ∈ s.committed ↔ i ∉ s.refused)

variable {calls} {i j : ι} {c : ℕ} {s s' s'' : Pool ι V}

theorem Rely.refl (i : ι) (s : Pool ι V) : Rely calls i s s :=
  ⟨id, fun _ => Iff.rfl, fun _ _ _ => rfl, Iff.rfl, Iff.rfl⟩

theorem Rely.trans (h : Rely calls i s s') (h' : Rely calls i s' s'') : Rely calls i s s'' where
  inv := h'.inv ∘ h.inv
  lease c := (h.lease c).trans (h'.lease c)
  session c hc halive := by
    have hlast := h'.session c ((h.lease c).mp hc) halive
    rw [hlast] at halive ⊢
    exact h.session c hc halive
  committed := h.committed.trans h'.committed
  refused := h.refused.trans h'.refused

theorem Holds.stable (h : Holds calls i c s) (hrely : Rely calls i s s') : Holds calls i c s' :=
  ⟨hrely.inv h.inv, (hrely.lease c).mp h.lease, fun c' hc' => h.only c' ((hrely.lease c').mpr hc')⟩

theorem Fresh.stable (h : Fresh i s) (hrely : Rely calls i s s') : Fresh i s' :=
  ⟨fun hc => h.1 (hrely.committed.mpr hc), fun hr => h.2 (hrely.refused.mpr hr)⟩

theorem Ended.stable {r : Except (DatabaseError E) α} (h : Ended i r s) (hrely : Rely calls i s s') :
    Ended i r s' :=
  ⟨fun c hc => h.1 c ((hrely.lease c).mpr hc),
    fun a ha => by rw [← hrely.committed, ← hrely.refused, h.2 a ha]⟩

/-- A change of one connection, which `j` does not have before or after. -/
theorem rely_of_one (hinv : Inv calls s → Inv calls s') (hlease : ∀ c', c' ≠ c → s'.lease c' = s.lease c')
    (hsession : ∀ c', c' ≠ c → s'.session c' = s.session c') (hbefore : s.lease c ≠ .leased j)
    (hafter : s'.lease c ≠ .leased j) (hcommitted : j ∈ s.committed ↔ j ∈ s'.committed)
    (hrefused : j ∈ s.refused ↔ j ∈ s'.refused) : Rely calls j s s' where
  inv := hinv
  lease c' := by
    by_cases hc : c' = c
    · subst hc
      exact ⟨fun h => absurd h hbefore, fun h => absurd h hafter⟩
    · rw [hlease c' hc]
  session c' hc' _ := hsession c' fun hc => hbefore (hc ▸ hc')
  committed := hcommitted
  refused := hrefused

theorem leased_ne (h : s.lease c = .leased i) (hij : j ≠ i) : s.lease c ≠ .leased j := by
  rw [h]
  intro heq
  exact hij (Lease.leased.inj heq).symm

/-! ### Connections that change hands -/

theorem giveBack_lease (destroy : Bool) : (s.giveBack c destroy).lease =
    Function.update s.lease c (if destroy then .closed else .pooled) := by
  cases destroy <;> rfl

theorem giveBack_session_of_ne {c' : ℕ} (destroy : Bool) (hc : c' ≠ c) :
    (s.giveBack c destroy).session c' = s.session c' := by
  cases destroy with
  | false => rfl
  | true => exact Function.update_of_ne hc _ _

theorem giveBack_inv {destroy : Bool} (hinv : Inv calls s)
    (hclean : destroy = false → (s.session c).transaction = none) : Inv calls (s.giveBack c destroy) := by
  refine ⟨fun c' hc' => ?_, fun c' hc' => ?_, ?_, ?_⟩
  · by_cases hc : c' = c
    · subst hc
      rw [giveBack_lease, Function.update_self] at hc'
      cases destroy with
      | false => exact hclean rfl
      | true => cases hc'
    · rw [giveBack_lease, Function.update_of_ne hc] at hc'
      rw [giveBack_session_of_ne destroy hc]
      exact hinv.pooled c' hc'
  · by_cases hc : c' = c
    · subst hc
      cases destroy with
      | false => exact hinv.broken c' hc'
      | true =>
        show (Function.update s.session c' _ c').transaction = none
        rw [Function.update_self]
    · rw [giveBack_session_of_ne destroy hc] at hc' ⊢
      exact hinv.broken c' hc'
  · cases destroy <;> exact hinv.executed
  · cases destroy <;> exact hinv.once

theorem giveBack_guarantee {destroy destroy' : Bool} (hholds : Holds calls i c s)
    (hclean : destroy' = false → (s.session c).transaction = none) :
    Guarantee calls i (.release c destroy) s (s.giveBack c destroy') where
  owned := hholds.lease
  inv hinv := giveBack_inv hinv hclean
  others j hij := by
    refine rely_of_one (fun hinv => giveBack_inv hinv hclean) (fun c' hc => ?_)
      (fun c' hc => giveBack_session_of_ne destroy' hc) (leased_ne hholds.lease hij) ?_ ?_ ?_
    · rw [giveBack_lease, Function.update_of_ne hc]
    · rw [giveBack_lease, Function.update_self]
      cases destroy' <;> simp
    · cases destroy' <;> rfl
    · cases destroy' <;> rfl

theorem giveBack_free {destroy : Bool} (hholds : Holds calls i c s) :
    ∀ c', (s.giveBack c destroy).lease c' ≠ .leased i := by
  intro c' hc'
  rw [giveBack_lease] at hc'
  by_cases hc : c' = c
  · subst hc
    rw [Function.update_self] at hc'
    cases destroy <;> cases hc'
  · rw [Function.update_of_ne hc] at hc'
    exact hc (hholds.only c' hc')

/-- What holds of the caller's records after it gave its connection back. -/
def Left (i : ι) (K : Pool ι V → Prop) (s : Pool ι V) : Prop :=
  (∀ c, s.lease c ≠ .leased i) ∧ K s

theorem session_stable {P : Session → Prop} (hlease : s.lease c = .leased i) (hrely : Rely calls i s s')
    (h : (s.session c).alive = true → P (s.session c)) (halive : (s'.session c).alive = true) :
    P (s'.session c) := by
  have hsame := hrely.session c hlease halive
  rw [hsame] at halive ⊢
  exact h halive

/-- The caller has a connection of which `P` holds, and has done nothing yet. -/
structure At (calls : ι → Call ι V E α) (i : ι) (c : ℕ) (P : Session → Prop) (s : Pool ι V) : Prop where
  holds : Holds calls i c s
  session : (s.session c).alive = true → P (s.session c)
  fresh : Fresh i s

theorem At.stable {P : Session → Prop} (h : At calls i c P s) (hrely : Rely calls i s s') :
    At calls i c P s' :=
  ⟨h.holds.stable hrely, session_stable h.holds.lease hrely h.session, h.fresh.stable hrely⟩

def Clean (session : Session) : Prop := session.transaction = none

/-- What `connect` ends with: a connection outside of a transaction, or none at all. -/
def Connected (calls : ι → Call ι V E α) (i : ι) (P : Session → Prop) :
    Except (DatabaseError E) ℕ → Pool ι V → Prop
  | .ok c, s => At calls i c (fun session => Clean session ∧ P session) s
  | .error _, s => ∀ c, s.lease c ≠ .leased i

/-- A call that has not begun. -/
structure Waiting (calls : ι → Call ι V E α) (i : ι) (s : Pool ι V) : Prop where
  inv : Inv calls s
  free : ∀ c, s.lease c ≠ .leased i
  fresh : Fresh i s

theorem lend (session : ℕ → Session) (hwaiting : Waiting calls i s) (hfree : ∀ j, s.lease c ≠ .leased j)
    (hsession : ∀ c', c' ≠ c → session c' = s.session c') (hclean : Clean (session c)) :
    Guarantee calls i (.connect i) s (({ s with session := session } : Pool ι V).setLease c (.leased i)) ∧
      Connected calls i (fun _ => True) (.ok c)
        (({ s with session := session } : Pool ι V).setLease c (.leased i)) := by
  have hlease (c' : ℕ) (hc : c' ≠ c) :
      (({ s with session := session } : Pool ι V).setLease c (.leased i)).lease c' = s.lease c' :=
    Function.update_of_ne hc _ _
  have hself : (({ s with session := session } : Pool ι V).setLease c (.leased i)).lease c = .leased i :=
    Function.update_self ..
  have hinv (hinv : Inv calls s) :
      Inv calls (({ s with session := session } : Pool ι V).setLease c (.leased i)) := by
    refine ⟨fun c' hc' => ?_, fun c' hc' => ?_, hinv.executed, hinv.once⟩
    · by_cases hc : c' = c
      · rw [hc, hself] at hc'
        cases hc'
      · rw [hlease c' hc] at hc'
        exact (congrArg Session.transaction (hsession c' hc)).trans (hinv.pooled c' hc')
    · by_cases hc : c' = c
      · rw [hc]
        exact hclean
      · have hsame := hsession c' hc
        exact (congrArg Session.transaction hsame).trans
          (hinv.broken c' ((congrArg Session.alive hsame).symm.trans hc'))
  refine ⟨⟨rfl, hinv, fun j hij => ?_⟩, ⟨⟨hinv hwaiting.inv, hself, fun c' hc' => ?_⟩, ?_, hwaiting.fresh⟩⟩
  · refine rely_of_one hinv hlease hsession (hfree j) ?_ Iff.rfl Iff.rfl
    rw [hself]
    intro heq
    exact hij (Lease.leased.inj heq).symm
  · by_contra hc
    rw [hlease c' hc] at hc'
    exact hwaiting.free c' hc'
  · exact fun _ => ⟨hclean, trivial⟩

theorem Waiting.stable (h : Waiting calls i s) (hrely : Rely calls i s s') : Waiting calls i s' :=
  ⟨hrely.inv h.inv, fun c hc => h.free c ((hrely.lease c).mpr hc), h.fresh.stable hrely⟩

/-- A pool as it is created. -/
def emptyPool : Pool ι V := ⟨fun _ => .closed, fun _ => ⟨false, Pool.loginRole, none⟩, [], [], []⟩

theorem inv_emptyPool : Inv calls (emptyPool : Pool ι V) :=
  ⟨fun _ _ => rfl, fun _ _ => rfl, fun e he => (by cases he), List.nodup_nil⟩

theorem drop_session_self : (s.drop c).session c = { s.session c with alive := false, transaction := none } :=
  Function.update_self ..

theorem drop_session_of_ne {c' : ℕ} (hc : c' ≠ c) : (s.drop c).session c' = s.session c' :=
  Function.update_of_ne hc _ _

theorem drop_inv (h : Inv calls s) : Inv calls (s.drop c) := by
  refine ⟨fun c' hc' => ?_, fun c' hc' => ?_, h.executed, h.once⟩
  · by_cases hc : c' = c
    · rw [hc, drop_session_self]
    · rw [drop_session_of_ne hc]
      exact h.pooled c' hc'
  · by_cases hc : c' = c
    · rw [hc, drop_session_self]
    · rw [drop_session_of_ne hc] at hc' ⊢
      exact h.broken c' hc'

/-- In the transaction of the call; it is aborted exactly when a statement was refused. -/
structure Working (calls : ι → Call ι V E α) (i : ι) (c : ℕ) (s : Pool ι V) : Prop where
  holds : Holds calls i c s
  session : (s.session c).alive = true → ∃ t, (s.session c).transaction = some t ∧
    t.options = (calls i).options ∧ HasRole calls i (s.session c) ∧ (t.aborted = true ↔ i ∈ s.refused)
  uncommitted : i ∉ s.committed

theorem Working.stable (h : Working calls i c s) (hrely : Rely calls i s s') : Working calls i c s' := by
  refine ⟨h.holds.stable hrely, fun halive => ?_, fun hc => h.uncommitted (hrely.committed.mpr hc)⟩
  have hsame := hrely.session c h.holds.lease halive
  rw [← hrely.refused, hsame]
  rw [hsame] at halive
  exact h.session halive

/-- The transaction has ended, committed unless a statement was refused. -/
def Settled (i : ι) (s : Pool ι V) : Prop := i ∈ s.committed ↔ i ∉ s.refused

theorem Settled.stable (h : Settled i s) (hrely : Rely calls i s s') : Settled i s' := by
  rw [Settled, ← hrely.committed, ← hrely.refused]
  exact h

/-! ### Statements of a caller -/

theorem alive_execute (session : Session) (command : Command) :
    (session.execute command).alive = session.alive := by
  cases command with
  | begin options =>
    unfold Session.execute
    dsimp only
    split <;> rfl
  | _ => rfl

theorem alive_refuse (session : Session) (command : Command) :
    (session.refuse command).alive = session.alive := by
  cases command <;> rfl

variable [Reading]

@[simp] theorem lease_execute (text : String) (values : List V) : (s.execute c text values).lease = s.lease := by
  unfold Pool.execute
  dsimp only
  split
  · rfl
  · split <;> rfl
  · rfl

@[simp] theorem session_execute (text : String) (values : List V) : (s.execute c text values).session =
    Function.update s.session c ((s.session c).execute (command text)) := by
  unfold Pool.execute
  dsimp only
  split
  · rfl
  · split <;> rfl
  · rfl

@[simp] theorem refused_execute (text : String) (values : List V) :
    (s.execute c text values).refused = s.refused := by
  unfold Pool.execute
  dsimp only
  split
  · rfl
  · split <;> rfl
  · rfl

theorem committed_execute (hlease : s.lease c = .leased i) (text : String) (values : List V) :
    (s.execute c text values).committed =
      if command text = .commit ∧ ∃ t ∈ (s.session c).transaction, t.aborted = false then s.committed ++ [i]
      else s.committed := by
  unfold Pool.execute
  dsimp only
  rw [hlease]
  cases hcommand : command text with
  | commit =>
    cases htransaction : (s.session c).transaction with
    | none => simp [Pool.setSession]
    | some t =>
      cases haborted : t.aborted <;> simp [haborted, Pool.setSession, Lease.caller]
  | _ => simp [Pool.setSession]

theorem executed_execute (hlease : s.lease c = .leased i) (text : String) (values : List V) :
    (s.execute c text values).executed = if command text = .work then
      s.executed ++ [⟨some i, (s.session c).role, (s.session c).transaction.map Transaction.options, text, values⟩]
      else s.executed := by
  unfold Pool.execute
  dsimp only
  rw [hlease]
  cases hcommand : command text with
  | commit =>
    simp only [reduceCtorEq, if_false]
    split <;> rfl
  | _ => simp [Pool.setSession, Lease.caller]

@[simp] theorem lease_refuse (text : String) : (s.refuse c text).lease = s.lease := by
  unfold Pool.refuse
  dsimp only
  split <;> rfl

@[simp] theorem session_refuse (text : String) : (s.refuse c text).session =
    Function.update s.session c ((s.session c).refuse (command text)) := by
  unfold Pool.refuse
  dsimp only
  split <;> rfl

@[simp] theorem executed_refuse (text : String) : (s.refuse c text).executed = s.executed := by
  unfold Pool.refuse
  dsimp only
  split <;> rfl

@[simp] theorem committed_refuse (text : String) : (s.refuse c text).committed = s.committed := by
  unfold Pool.refuse
  dsimp only
  split <;> rfl

theorem refused_refuse (hlease : s.lease c = .leased i) (text : String) : (s.refuse c text).refused =
    if command text = .work then s.refused ++ [i] else s.refused := by
  unfold Pool.refuse
  dsimp only
  rw [hlease]
  split <;> rfl

/-- Work is done in the transaction of the call, and a commit only once. -/
structure Ready (calls : ι → Call ι V E α) (i : ι) (c : ℕ) (text : String) (s : Pool ι V) : Prop where
  work : command text = .work → (s.session c).alive = true →
    (s.session c).transaction.map Transaction.options = some (calls i).options ∧ HasRole calls i (s.session c)
  commit : command text = .commit → i ∉ s.committed

/-- The three things that can come of a query. -/
inductive Outcome (c : ℕ) (text : String) (values : List V) (s : Pool ι V) : Pool ι V → Prop where
  | unsent : Outcome c text values s s
  | executed (h : (s.session c).Accepts (command text)) : Outcome c text values s (s.execute c text values)
  | refused (h : (s.session c).alive = true) : Outcome c text values s (s.refuse c text)

variable {text : String} {values : List V}

theorem Outcome.lease (h : Outcome c text values s s') :
    s'.lease = s.lease := by
  cases h <;> simp

theorem Outcome.inv (h : Outcome c text values s s')
    (hlease : s.lease c = .leased i) (hready : Ready calls i c text s) (hinv : Inv calls s) :
    Inv calls s' := by
  have hpooled (session : Session) (c' : ℕ) (hc' : s.lease c' = .pooled) :
      (Function.update s.session c session c').transaction = none := by
    have hne : c' ≠ c := by
      rintro rfl
      rw [hlease] at hc'
      cases hc'
    rw [Function.update_of_ne hne]
    exact hinv.pooled c' hc'
  have hbroken {session : Session} (halive : session.alive = true) (c' : ℕ)
      (hc' : (Function.update s.session c session c').alive = false) :
      (Function.update s.session c session c').transaction = none := by
    by_cases hc : c' = c
    · rw [hc, Function.update_self, halive] at hc'
      cases hc'
    · rw [Function.update_of_ne hc] at hc' ⊢
      exact hinv.broken c' hc'
  cases h with
  | unsent => exact hinv
  | executed haccepts =>
    constructor
    · intro c' hc'
      rw [lease_execute] at hc'
      rw [session_execute]
      exact hpooled _ c' hc'
    · rw [session_execute]
      exact hbroken ((alive_execute _ _).trans haccepts.1)
    · rw [executed_execute hlease]
      split_ifs with hwork
      · intro e he
        rcases List.mem_append.mp he with he | he
        · exact hinv.executed e he
        · rw [List.mem_singleton.mp he]
          obtain ⟨hoptions, hrole⟩ := hready.work hwork haccepts.1
          exact ⟨i, rfl, hoptions, hrole⟩
      · exact hinv.executed
    · rw [committed_execute hlease]
      split_ifs with hcommit
      · exact List.nodup_append.mpr ⟨hinv.once, List.pairwise_singleton _ i, fun j hj k hk => by
          rw [List.mem_singleton.mp hk]
          rintro rfl
          exact hready.commit hcommit.1 hj⟩
      · exact hinv.once
  | refused halive =>
    constructor
    · intro c' hc'
      rw [lease_refuse] at hc'
      rw [session_refuse]
      exact hpooled _ c' hc'
    · rw [session_refuse]
      exact hbroken ((alive_refuse _ _).trans halive)
    · rw [executed_refuse]
      exact hinv.executed
    · rw [committed_refuse]
      exact hinv.once

theorem Outcome.others (h : Outcome c text values s s')
    (hlease : s.lease c = .leased i) (hinv : Inv calls s → Inv calls s') (hij : j ≠ i) : Rely calls j s s' := by
  have hj {P : Prop} [Decidable P] {l : List ι} : j ∈ l ↔ j ∈ if P then l ++ [i] else l := by
    split_ifs
    · simp [hij]
    · rfl
  cases h with
  | unsent => exact Rely.refl j s
  | executed haccepts =>
    refine rely_of_one hinv (fun c' _ => by rw [lease_execute]) (fun c' hc => ?_) (leased_ne hlease hij)
      (by rw [lease_execute]; exact leased_ne hlease hij) ?_ (by rw [refused_execute])
    · rw [session_execute, Function.update_of_ne hc]
    · rw [committed_execute hlease]
      exact hj
  | refused halive =>
    refine rely_of_one hinv (fun c' _ => by rw [lease_refuse]) (fun c' hc => ?_) (leased_ne hlease hij)
      (by rw [lease_refuse]; exact leased_ne hlease hij) (by rw [committed_refuse]) ?_
    · rw [session_refuse, Function.update_of_ne hc]
    · rw [refused_refuse hlease]
      exact hj

theorem Outcome.holds (h : Outcome c text values s s')
    (hholds : Holds calls i c s) (hready : Ready calls i c text s) : Holds calls i c s' :=
  ⟨h.inv hholds.lease hready hholds.inv, by rw [h.lease]; exact hholds.lease,
    by rw [h.lease]; exact hholds.only⟩

theorem Outcome.guarantee (h : Outcome c text values s s')
    (hlease : s.lease c = .leased i) (hready : Ready calls i c text s) :
    Guarantee calls i (.query c text values) s s' :=
  ⟨hlease, h.inv hlease hready, fun _ => h.others hlease (h.inv hlease hready)⟩

/-! ### The requests of a call -/

theorem safe_query {P : Pool ι V → Prop} {Q : Except (DatabaseError E) SqlQueryResult → Pool ι V → Prop}
    {text : String} {values : List V} (hstable : ∀ a b, Rely calls i a b → P a → P b) (hP : P s)
    (hlease : ∀ s, P s → s.lease c = .leased i) (hready : ∀ s, P s → Ready calls i c text s)
    (hok : ∀ s result, P s → (s.session c).Accepts (command text) → Shows (s.session c) text result →
      Q (.ok result) (s.execute c text values))
    (herror : ∀ s s' e, P s → Outcome c text values s s' → Q (.error (.raised e)) s') :
    (query c text values : DbProg ι V E SqlQueryResult).Safe (Rely calls i) Answers (Guarantee calls i) Q s := by
  refine Prog.safe_request fun s₁ hrely r s₂ hanswer => ?_
  have hP₁ := hstable s s₁ hrely hP
  cases hanswer with
  | done h hresult =>
    exact ⟨(Outcome.executed h).guarantee (hlease s₁ hP₁) (hready s₁ hP₁), hok s₁ _ hP₁ h hresult⟩
  | unanswered e h =>
    exact ⟨(Outcome.executed h).guarantee (hlease s₁ hP₁) (hready s₁ hP₁), herror s₁ _ e hP₁ (.executed h)⟩
  | refused e h =>
    exact ⟨(Outcome.refused h).guarantee (hlease s₁ hP₁) (hready s₁ hP₁), herror s₁ _ e hP₁ (.refused h)⟩
  | unsent e => exact ⟨Outcome.unsent.guarantee (hlease s₁ hP₁) (hready s₁ hP₁), herror s₁ _ e hP₁ .unsent⟩

theorem ready_control {text : String} (hwork : command text ≠ .work) (hcommit : command text ≠ .commit) :
    Ready calls i c text s :=
  ⟨fun h => absurd h hwork, fun h => absurd h hcommit⟩

theorem safe_release {K : Pool ι V → Prop} {destroy : Bool} (hstable : ∀ a b, Rely calls i a b → K a → K b)
    (hkeep : ∀ s d, K s → K (s.giveBack c d)) (hK : K s) (hholds : Holds calls i c s)
    (hclean : destroy = false → (s.session c).alive = true → (s.session c).transaction = none) :
    (release c destroy : DbProg ι V E Unit).Safe (Rely calls i) Answers (Guarantee calls i)
      (fun r s => r = .ok () ∧ Left i K s) s := by
  refine Prog.safe_request fun s₁ hrely r s₂ hanswer => ?_
  have hholds₁ := hholds.stable hrely
  have hclean₁ : destroy = false → (s₁.session c).transaction = none := by
    intro hdestroy
    cases halive : (s₁.session c).alive with
    | false => exact hholds₁.inv.broken c halive
    | true =>
      have hsame := hrely.session c hholds.lease halive
      rw [hsame] at halive ⊢
      exact hclean hdestroy halive
  cases hanswer with
  | released h =>
    exact ⟨giveBack_guarantee hholds₁ hclean₁, rfl, giveBack_free hholds₁, hkeep _ _ (hstable _ _ hrely hK)⟩
  | discarded h =>
    exact ⟨giveBack_guarantee hholds₁ (fun hfalse => by cases hfalse), rfl, giveBack_free hholds₁,
      hkeep _ _ (hstable _ _ hrely hK)⟩
  | notLeased e h => exact absurd hholds₁.lease (h i)

/-! ### Connections -/

theorem safe_connect (hwaiting : Waiting calls i s) :
    (connect i : DbProg ι V E ℕ).Safe (Rely calls i) Answers (Guarantee calls i)
      (Connected calls i fun _ => True) s := by
  refine Prog.safe_request fun s₁ hrely r s₂ hanswer => ?_
  have hwaiting₁ := hwaiting.stable hrely
  cases hanswer with
  | pooled h =>
    refine lend s₁.session hwaiting₁ (fun j => ?_) (fun c' _ => rfl) (hwaiting₁.inv.pooled _ h)
    rw [h]
    intro heq
    cases heq
  | @opened _ _ c h =>
    refine lend (Function.update s₁.session c ⟨true, Pool.loginRole, none⟩) hwaiting₁ (fun j => ?_)
      (fun c' hc => Function.update_of_ne hc _ _) ?_
    · rw [h]
      intro heq
      cases heq
    · rw [Function.update_self]
      rfl
  | unreachable e => exact ⟨⟨rfl, id, fun j _ => Rely.refl j s₁⟩, hwaiting₁.free⟩

theorem fresh_execute {text : String} {values : List V} (hlease : s.lease c = .leased i)
    (hcommit : command text ≠ .commit) (hfresh : Fresh i s) : Fresh i (s.execute c text values) := by
  refine ⟨?_, ?_⟩
  · rw [committed_execute hlease, if_neg fun h => hcommit h.1]
    exact hfresh.1
  · rw [refused_execute]
    exact hfresh.2

theorem At.execute {P P' : Session → Prop} {text : String} {values : List V} (h : At calls i c P s)
    (hwork : command text ≠ .work) (hcommit : command text ≠ .commit)
    (haccepts : (s.session c).Accepts (command text))
    (hP : P (s.session c) → P' ((s.session c).execute (command text))) :
    At calls i c P' (s.execute c text values) := by
  refine ⟨(Outcome.executed haccepts).holds h.holds (ready_control hwork hcommit), fun _ => ?_,
    fresh_execute h.holds.lease hcommit h.fresh⟩
  rw [session_execute, Function.update_self]
  exact hP (h.session haccepts.1)

theorem safe_connectAs {role : String} {giveUp : ℕ → DbProg ι V E Unit}
    (hset : command ("SET ROLE " ++ role) = .setRole role)
    (hgiveUp : ∀ c s, Holds calls i c s → (giveUp c).Safe (Rely calls i) Answers (Guarantee calls i)
      (fun _ s => ∀ c, s.lease c ≠ .leased i) s) (hwaiting : Waiting calls i s) :
    (connectAs role giveUp i).Safe (Rely calls i) Answers (Guarantee calls i)
      (Connected calls i fun session => session.role = role) s := by
  have hshow : command "SELECT current_role" = .currentRole := Reading.currentRole
  refine Prog.safe_bind (Prog.safe_orElse (Prog.safe_mono (safe_connect hwaiting) fun r s' hr => ?_))
  cases r with
  | error e => exact hr
  | ok c =>
    have hopened : At calls i c Clean s' := ⟨hr.holds, fun halive => (hr.session halive).1, hr.fresh⟩
    refine Prog.safe_orElse (Q := Connected calls i fun session => session.role = role) ?_
    refine Prog.safe_mono (Q := fun r s => match r with
      | .ok c' => c' = c ∧ At calls i c (fun session => Clean session ∧ session.role = role) s
      | .error _ => Holds calls i c s) ?_ fun r s₂ hr₂ => ?_
    · refine Prog.safe_bind (safe_query (P := At calls i c Clean) (fun a b hrely h => h.stable hrely) hopened
        (fun s h => h.holds.lease) (fun s h => ready_control (by simp [hset]) (by simp [hset]))
        (fun s result h haccepts _ => ?_) fun s s' e h houtcome => ?_)
      · have hroled : At calls i c (fun session => Clean session ∧ session.role = role)
            (s.execute c ("SET ROLE " ++ role) []) := by
          refine h.execute (by simp [hset]) (by simp [hset]) haccepts fun hclean => ?_
          rw [hset]
          exact ⟨hclean, rfl⟩
        refine Prog.safe_bind (safe_query
          (P := At calls i c fun session => Clean session ∧ session.role = role)
          (fun a b hrely h => h.stable hrely) hroled (fun s h => h.holds.lease)
          (fun s h => ready_control (by simp [hshow]) (by simp [hshow])) (fun s result h haccepts _ => ?_)
          fun s s' e h houtcome => ?_)
        · have hsame : At calls i c (fun session => Clean session ∧ session.role = role)
              (s.execute c "SELECT current_role" []) :=
            h.execute (by simp [hshow]) (by simp [hshow]) haccepts fun hsession => by rw [hshow]; exact hsession
          by_cases hrows : result.rows.head?.bind (fun row => row.lookup "current_role") = some role
          · simp only [Prog.andThen, hrows, if_true]
            exact ⟨rfl, hsame⟩
          · simp only [Prog.andThen, hrows, if_false]
            exact hsame.holds
        · exact houtcome.holds h.holds (ready_control (by simp [hshow]) (by simp [hshow]))
      · exact houtcome.holds h.holds (ready_control (by simp [hset]) (by simp [hset]))
    · cases r with
      | ok c' =>
        obtain ⟨rfl, hat⟩ := hr₂
        exact hat
      | error e =>
        refine Prog.safe_bind (Prog.safe_mono (hgiveUp c s₂ hr₂) fun r s₃ hfree => ?_)
        cases r with
        | ok _ => exact hfree
        | error _ => exact hfree

theorem safe_destroy (hholds : Holds calls i c s) :
    (release c true : DbProg ι V E Unit).Safe (Rely calls i) Answers (Guarantee calls i)
      (fun _ s => ∀ c, s.lease c ≠ .leased i) s :=
  Prog.safe_mono (safe_release (K := fun _ => True) (fun _ _ _ _ => trivial) (fun _ _ _ => trivial)
    trivial hholds fun hfalse => by cases hfalse) fun _ _ h => h.2.1

theorem safe_projectionConnect (hwaiting : Waiting calls i s) :
    (PgProjectionPoolAdapter.connect i : DbProg ι V E ℕ).Safe (Rely calls i) Answers (Guarantee calls i)
      (Connected calls i fun session => session.role = projectorDatabaseRole) s := by
  refine safe_connectAs Reading.setRole_projector (fun c s hholds => ?_) hwaiting
  refine Prog.safe_orElse (Prog.safe_mono (safe_destroy hholds) fun r s' hfree => ?_)
  cases r with
  | ok _ => exact hfree
  | error _ => exact hfree

theorem safe_publisherConnect (hwaiting : Waiting calls i s) :
    (PgMatchPublisherPoolAdapter.connect i : DbProg ι V E ℕ).Safe (Rely calls i) Answers
      (Guarantee calls i) (Connected calls i fun session => session.role = matchPublisherDatabaseRole) s :=
  safe_connectAs Reading.setRole_publisher (fun _ _ => safe_destroy) hwaiting

/-! ### Transactions -/

theorem Working.ready {text : String} (h : Working calls i c s) : Ready calls i c text s := by
  refine ⟨fun _ halive => ?_, fun _ => h.uncommitted⟩
  obtain ⟨t, ht, hoptions, hrole, -⟩ := h.session halive
  rw [ht, Option.map_some, hoptions]
  exact ⟨rfl, hrole⟩

theorem Working.work {text : String} {values : List V} (h : Working calls i c s)
    (hwork : command text = .work) (houtcome : Outcome c text values s s') : Working calls i c s' := by
  have hholds := houtcome.holds h.holds h.ready
  cases houtcome with
  | unsent => exact h
  | executed haccepts =>
    refine ⟨hholds, fun _ => ?_, ?_⟩
    · rw [session_execute, Function.update_self, refused_execute, hwork]
      exact h.session haccepts.1
    · rw [committed_execute h.holds.lease, if_neg (by simp [hwork])]
      exact h.uncommitted
  | refused halive =>
    refine ⟨hholds, fun _ => ?_, by rw [committed_refuse]; exact h.uncommitted⟩
    obtain ⟨t, ht, hoptions, hrole, -⟩ := h.session halive
    rw [session_refuse, Function.update_self, refused_refuse h.holds.lease, if_pos hwork, hwork]
    refine ⟨{ t with aborted := true }, ?_, hoptions, hrole, ?_⟩
    · show (s.session c).transaction.map _ = _
      rw [ht]
      rfl
    · simp

theorem safe_work (hwell : (calls i).WellBehaved) (h : Working calls i c s) :
    ((calls i).work c).Safe (Rely calls i) Answers (Guarantee calls i) (fun _ s => Working calls i c s) s := by
  refine Prog.safe_of_only (fun a b hrely ha => ha.stable hrely) ?_ h (hwell c)
  rintro q a r b ⟨text, values, rfl, hwork⟩ ha hanswer
  have houtcome : Outcome c text values a b := by
    cases hanswer with
    | done haccepts => exact .executed haccepts
    | unanswered e haccepts => exact .executed haccepts
    | refused e halive => exact .refused halive
    | unsent e => exact .unsent
  exact ⟨houtcome.guarantee ha.holds.lease ha.ready, ha.work hwork houtcome⟩

/-- What the `try` and the `catch` end with: the outcome, and whether the connection was given back. -/
def Tried (calls : ι → Call ι V E α) (i : ι) (c : ℕ) :
    Except (DatabaseError E) (Except (DatabaseError E) α × Bool) → Pool ι V → Prop
  | .ok (outcome, false), s =>
    Holds calls i c s ∧ ((s.session c).alive = true → Clean (s.session c)) ∧ ∀ a, outcome = .ok a → Settled i s
  | .ok (outcome, true), s => (∀ c, s.lease c ≠ .leased i) ∧ ∀ a, outcome ≠ .ok a
  | .error _, s => Holds calls i c s

theorem safe_try (hwell : (calls i).WellBehaved) {beginStatement : String}
    (hbegin : command beginStatement = .begin (calls i).options)
    (h : At calls i c (fun session => Clean session ∧ HasRole calls i session) s) :
    Prog.Safe (Rely calls i) Answers (Guarantee calls i) (do
      let _ ← query c beginStatement []
      let result ← (calls i).work c
      let _ ← query c "COMMIT" []
      pure (Except.ok result, false) : DbProg ι V E _) (Tried calls i c) s := by
  have hcommit : command "COMMIT" = .commit := Reading.commit
  have hcontrol (s : Pool ι V) : Ready calls i c beginStatement s :=
    ready_control (by simp [hbegin]) (by simp [hbegin])
  refine Prog.safe_bind (safe_query
    (P := At calls i c fun session => Clean session ∧ HasRole calls i session)
    (fun a b hrely h => h.stable hrely) h (fun s h => h.holds.lease) (fun s _ => hcontrol s)
    (fun s result h haccepts _ => ?_) fun s s' e h houtcome => houtcome.holds h.holds (hcontrol s))
  have hworking : Working calls i c (s.execute c beginStatement []) := by
    refine ⟨(Outcome.executed haccepts).holds h.holds (hcontrol s), fun _ => ?_, ?_⟩
    · obtain ⟨hclean, hrole⟩ := h.session haccepts.1
      rw [session_execute, Function.update_self, hbegin, refused_execute]
      unfold Session.execute
      rw [show (s.session c).transaction = none from hclean]
      exact ⟨_, rfl, rfl, hrole, by simp [h.fresh.2]⟩
    · exact (fresh_execute h.holds.lease (by simp [hbegin]) h.fresh).1
  refine Prog.safe_bind (Prog.safe_mono (safe_work hwell hworking) fun r s₂ hr => ?_)
  cases r with
  | error e => exact hr.holds
  | ok a =>
    refine Prog.safe_bind (safe_query (P := Working calls i c) (fun a b hrely h => h.stable hrely) hr
      (fun s h => h.holds.lease) (fun s h => h.ready) (fun s result h haccepts _ => ?_)
      fun s s' e h houtcome => houtcome.holds h.holds h.ready)
    refine ⟨(Outcome.executed haccepts).holds h.holds h.ready, fun _ => ?_, fun _ _ => ?_⟩
    · rw [session_execute, Function.update_self, hcommit]
      rfl
    · obtain ⟨t, ht, -, -, haborted⟩ := h.session haccepts.1
      rw [Settled, committed_execute h.holds.lease, refused_execute, ← haborted]
      cases hvalue : t.aborted with
      | true =>
        rw [if_neg (by simp [ht, hvalue])]
        simp [h.uncommitted]
      | false =>
        rw [if_pos ⟨hcommit, t, ht, hvalue⟩]
        simp

theorem safe_rollbackQuietly (h : Holds calls i c s) :
    (rollbackQuietly c : DbProg ι V E Bool).Safe (Rely calls i) Answers (Guarantee calls i) (fun r s =>
      ∃ rolledBack, r = .ok rolledBack ∧ Holds calls i c s ∧
        (rolledBack = true → (s.session c).alive = true → Clean (s.session c))) s := by
  have hrollback : command "ROLLBACK" = .rollback := Reading.rollback
  have hready (s : Pool ι V) : Ready calls i c "ROLLBACK" s :=
    ready_control (by simp [hrollback]) (by simp [hrollback])
  refine Prog.safe_orElse (Prog.safe_bind (safe_query (P := Holds calls i c)
    (fun a b hrely h => h.stable hrely) h (fun s h => h.lease) (fun s _ => hready s)
    (fun s result h haccepts _ => ?_) fun s s' e h houtcome => ?_))
  · refine ⟨true, rfl, (Outcome.executed haccepts).holds h (hready s), fun _ _ => ?_⟩
    rw [session_execute, Function.update_self, hrollback]
    rfl
  · exact ⟨false, rfl, houtcome.holds h (hready s), fun hfalse => by cases hfalse⟩

theorem safe_transaction (hwell : (calls i).WellBehaved) {connect : DbProg ι V E ℕ} {beginStatement : String}
    (hbegin : command beginStatement = .begin (calls i).options)
    (hconnect : connect.Safe (Rely calls i) Answers (Guarantee calls i)
      (Connected calls i (HasRole calls i)) s) :
    (transaction connect beginStatement (calls i).work).Safe (Rely calls i) Answers (Guarantee calls i)
      (Ended i) s := by
  have hkeep (s : Pool ι V) (c : ℕ) (d : Bool) (h : Settled i s) : Settled i (s.giveBack c d) := by
    cases d <;> exact h
  refine Prog.safe_bind (Prog.safe_mono hconnect fun r s₁ hr => ?_)
  cases r with
  | error e => exact ⟨hr, fun a ha => by cases ha⟩
  | ok c =>
    refine Prog.safe_bind (Prog.safe_orElse (Prog.safe_mono (safe_try hwell hbegin hr) fun r s₂ hr₂ => ?_))
    -- after the `try`: the outcome goes to the `finally`, an error through the `catch` first
    have hfinally (r : Except (DatabaseError E) (Except (DatabaseError E) α × Bool)) (s : Pool ι V)
        (hne : ∀ e, r ≠ .error e) (htried : Tried calls i c r s) :
        Prog.andThen (Rely calls i) Answers (Guarantee calls i)
          (fun p : Except (DatabaseError E) α × Bool => if p.2 then Prog.lift p.1
            else (release c false : DbProg ι V E Unit).bind fun _ => Prog.lift p.1) (Ended i) r s := by
      cases r with
      | error e => exact absurd rfl (hne e)
      | ok p =>
        obtain ⟨outcome, released⟩ := p
        cases released with
        | true =>
          refine Prog.safe_lift.mpr ⟨htried.1, fun a ha => absurd ha (htried.2 a)⟩
        | false =>
          obtain ⟨hholds, hclean, hsettled⟩ := htried
          refine Prog.safe_bind (Prog.safe_mono (safe_release
            (K := fun s => ∀ a, outcome = .ok a → Settled i s)
            (fun a b hrely h x hx => (h x hx).stable hrely) (fun s d h x hx => hkeep s c d (h x hx)) hsettled
            hholds fun _ => hclean) fun r s₃ hr₃ => ?_)
          obtain ⟨rfl, hfree, hsettled₃⟩ := hr₃
          exact Prog.safe_lift.mpr ⟨hfree, hsettled₃⟩
    cases r with
    | ok p => exact hfinally (.ok p) s₂ (fun e he => by cases he) hr₂
    | error e =>
      refine Prog.safe_bind (Prog.safe_mono (safe_rollbackQuietly hr₂) fun r s₃ hr₃ => ?_)
      obtain ⟨rolledBack, rfl, hholds, hclean⟩ := hr₃
      cases rolledBack with
      | true =>
        exact hfinally (.ok (.error e, false)) s₃ (fun e he => by cases he)
          ⟨hholds, hclean rfl, fun a ha => by cases ha⟩
      | false =>
        refine Prog.safe_bind (Prog.safe_mono (safe_release (K := fun _ => True) (fun _ _ _ _ => trivial)
          (fun _ _ _ => trivial) trivial hholds fun hfalse => by cases hfalse) fun r s₄ hr₄ => ?_)
        obtain ⟨rfl, hfree, -⟩ := hr₄
        exact hfinally (.ok (.error e, true)) s₄ (fun e he => by cases he) ⟨hfree, fun a ha => by cases ha⟩

theorem safe_call (hwell : (calls i).WellBehaved) (hwaiting : Waiting calls i s) :
    ((calls i).run i).Safe (Rely calls i) Answers (Guarantee calls i) (Ended i) s := by
  have hplain : command "BEGIN" = .begin ⟨.readCommitted, false⟩ := Reading.begin_plain
  have hserializable : command "BEGIN ISOLATION LEVEL SERIALIZABLE" = .begin ⟨.serializable, false⟩ :=
    Reading.begin_isolation ⟨.serializable, false⟩
  have hworker {role : String} {connect : DbProg ι V E ℕ} (hrole : (calls i).role = some role)
      (hconnect : connect.Safe (Rely calls i) Answers (Guarantee calls i)
        (Connected calls i fun session => session.role = role) s) :
      connect.Safe (Rely calls i) Answers (Guarantee calls i) (Connected calls i (HasRole calls i)) s := by
    refine Prog.safe_mono hconnect fun r s' hr => ?_
    cases r with
    | error e => exact hr
    | ok c =>
      refine ⟨hr.holds, fun halive => ⟨(hr.session halive).1, fun role' hrole' => ?_⟩, hr.fresh⟩
      rw [hrole, Option.mem_some_iff] at hrole'
      exact hrole' ▸ (hr.session halive).2
  cases hcall : calls i with
  | withTransaction options work =>
    have hoptions : command (buildBeginStatement options) = .begin (calls i).options := by
      rw [hcall]
      exact Reading.begin_isolation options
    have hsafe := safe_transaction hwell hoptions (Prog.safe_mono (safe_connect hwaiting) fun r s' hr => by
      cases r with
      | error e => exact hr
      | ok c =>
        refine ⟨hr.holds, fun halive => ⟨(hr.session halive).1, fun role hrole => ?_⟩, hr.fresh⟩
        rw [hcall] at hrole
        cases hrole)
    rw [hcall] at hsafe
    exact hsafe
  | projection work =>
    have hbegin : command "BEGIN" = .begin (calls i).options := by rw [hplain, hcall]; rfl
    have hrole : (calls i).role = some projectorDatabaseRole := by rw [hcall]; rfl
    have hsafe := safe_transaction hwell hbegin (hworker hrole (safe_projectionConnect hwaiting))
    rw [hcall] at hsafe
    exact hsafe
  | publication serializable work =>
    have hbegin : command (if serializable then "BEGIN ISOLATION LEVEL SERIALIZABLE" else "BEGIN") =
        .begin (calls i).options := by
      rw [hcall]
      cases serializable with
      | true => exact hserializable
      | false => exact hplain
    have hrole : (calls i).role = some matchPublisherDatabaseRole := by rw [hcall]; rfl
    have hsafe := safe_transaction hwell hbegin (hworker hrole (safe_publisherConnect hwaiting))
    rw [hcall] at hsafe
    exact hsafe

/-! ### Many calls over one pool -/

omit [Reading] in
theorem relies : Relies (ε := DatabaseError E) Env (Rely calls) (Guarantee calls) (Inv calls) (Ended (α := α)) where
  refl := Rely.refl
  trans _ _ _ _ := Rely.trans
  env i s s' henv := by
    cases henv with
    | broken c =>
      refine ⟨drop_inv, fun _ => Iff.rfl, fun c' _ halive => ?_, Iff.rfl, Iff.rfl⟩
      by_cases hc : c' = c
      · rw [hc, drop_session_self] at halive
        cases halive
      · exact drop_session_of_ne hc
    | @expired c h =>
      have hne (j : ι) : s.lease c ≠ .leased j := by
        rw [h]
        intro heq
        cases heq
      refine rely_of_one (c := c) (fun hinv => giveBack_inv hinv fun hfalse => by cases hfalse) (fun c' hc => ?_)
        (fun c' hc => giveBack_session_of_ne true hc) (hne i) ?_ Iff.rfl Iff.rfl
      · rw [giveBack_lease, Function.update_of_ne hc]
      · rw [giveBack_lease, Function.update_self]
        intro heq
        cases heq
  others i j q s s' hij h := h.others j hij
  stable i r s s' hrely h := h.stable hrely
  envInv s s' henv h := by
    cases henv with
    | broken c => exact drop_inv h
    | expired hpooled => exact giveBack_inv h fun hfalse => by cases hfalse
  ownInv i q s s' h := h.inv

variable [DecidableEq ι]

/-- **Transactions over a pool.**  Any number of calls share a pool; each of them is made once, and its work
only queries the client that it is handed, without commands about transactions or roles.  Whatever the
server answers, whatever breaks, and however the calls interleave: a connection is in the pool only outside
of a transaction; a call that has ended has no connection any more; every statement of the work was run in a
transaction of its own call, with the isolation and the role that the call asks for; no call commits twice; a
call that returned has committed exactly when the server refused none of its statements; and every request
that a call makes is about a connection that it has. -/
theorem pooled_transactions (calls : ι → Call ι V E α) (hwell : ∀ i, (calls i).WellBehaved)
    {S : Sys (Request ι V) Request.Response (DatabaseError E) α (Pool ι V) ι}
    {ts : List (Transition (Sys (Request ι V) Request.Response (DatabaseError E) α (Pool ι V) ι)
      (SysLabel (Request ι V) Request.Response (DatabaseError E) ι))}
    (hrun : Run (SysStep Env Answers fun i => (calls i).run i) ⟨emptyPool, fun i => (calls i).run i⟩ ts S)
    (honce : ∀ t ∈ ts, ∀ i, t.label ≠ .restart i) :
    (∀ c, S.shared.lease c = .pooled → (S.shared.session c).transaction = none) ∧
      (∀ i outcome, S.procs i = Prog.lift outcome → ∀ c, S.shared.lease c ≠ .leased i) ∧
      (∀ e ∈ S.shared.executed, ∃ i, e.caller = some i ∧ e.options = some (calls i).options ∧
        ∀ role ∈ (calls i).role, e.role = role) ∧
      S.shared.committed.Nodup ∧
      (∀ i a, S.procs i = .ret a → (i ∈ S.shared.committed ↔ i ∉ S.shared.refused)) ∧
      ∀ t ∈ ts, ∀ i q r, t.label = .answer i q r → q.Owned i t.pre.shared := by
  have hstart : EachSafe Answers (Rely calls) (Guarantee calls) (Inv calls) Ended
      ⟨emptyPool, fun i => (calls i).run i⟩ := by
    refine ⟨inv_emptyPool, fun i => safe_call (hwell i) ⟨inv_emptyPool, fun c hc => (by cases hc), ?_, ?_⟩⟩
    · exact List.not_mem_nil
    · exact List.not_mem_nil
  obtain ⟨⟨hinv, hsafe⟩, hguarantee⟩ := relies.run hstart hrun honce
  have hended (i : ι) (outcome : Except (DatabaseError E) α) (h : S.procs i = Prog.lift outcome) :
      Ended i outcome S.shared := by
    have hi := hsafe i
    rw [h] at hi
    exact Prog.safe_lift.mp hi
  exact ⟨hinv.pooled, fun i outcome h => (hended i outcome h).1, hinv.executed, hinv.once,
    fun i a h => (hended i (.ok a) h).2 a rfl, fun t ht i q r hl => (hguarantee t ht i q r hl).owned⟩

end

section

def allOptions : List TransactionOptions :=
  [⟨.readCommitted, false⟩, ⟨.repeatableRead, false⟩, ⟨.serializable, false⟩, ⟨.readCommitted, true⟩,
    ⟨.repeatableRead, true⟩, ⟨.serializable, true⟩]

/-- A server that knows the texts of this code, and takes any other for work. -/
instance exampleReading : Reading where
  command text :=
    if text = "BEGIN" then .begin ⟨.readCommitted, false⟩
    else if text = "COMMIT" then .commit
    else if text = "ROLLBACK" then .rollback
    else if text = "SELECT current_role" then .currentRole
    else if text = "SET ROLE " ++ projectorDatabaseRole then .setRole projectorDatabaseRole
    else if text = "SET ROLE " ++ matchPublisherDatabaseRole then .setRole matchPublisherDatabaseRole
    else
      match allOptions.find? fun options => buildBeginStatement options = text with
      | some options => .begin options
      | none => .work
  begin_plain := by decide
  begin_isolation options := by
    obtain ⟨isolation, readOnly⟩ := options
    cases isolation <;> cases readOnly <;> decide
  commit := by decide
  rollback := by decide
  setRole_projector := by decide
  setRole_publisher := by decide
  currentRole := by decide

/-- A server and a pool with one connection that answer everything that they can. -/
def exampleServer (_ : Unit) : (q : Request Bool Unit) → Pool Bool Unit →
    Except (DatabaseError Unit) q.Response × Pool Bool Unit
  | .connect caller, s =>
    match s.lease 0 with
    | .closed => (.ok (0 : ℕ), s.openClient 0 caller)
    | .pooled => (.ok (0 : ℕ), s.setLease 0 (.leased caller))
    | .leased _ => (.error (.raised ()), s)
  | .query c text values, s =>
    if (s.session c).Accepts (command text) then
      (.ok ⟨[[("current_role", (s.session c).role)]], some 1⟩, s.execute c text values)
    else (.error (.raised ()), s)
  | .release c destroy, s =>
    match s.lease c with
    | .leased _ => (.ok (), s.giveBack c destroy)
    | .pooled => (.error (.raised ()), s)
    | .closed => (.error (.raised ()), s)

theorem exampleServer_answers (d : Unit) (q : Request Bool Unit) (s : Pool Bool Unit) :
    Answers q s (exampleServer d q s).1 (exampleServer d q s).2 := by
  cases q with
  | connect caller =>
    dsimp only [exampleServer]
    cases hlease : s.lease 0 with
    | pooled => exact .pooled hlease
    | leased other => exact .unreachable ()
    | closed => exact .opened hlease
  | query c text values =>
    dsimp only [exampleServer]
    split_ifs with haccepts
    · exact .done haccepts fun _ => rfl
    · exact .unsent ()
  | release c destroy =>
    dsimp only [exampleServer]
    cases hlease : s.lease c with
    | pooled => exact .notLeased () fun i hi => by rw [hlease] at hi; cases hi
    | leased other => exact .released hlease
    | closed => exact .notLeased () fun i hi => by rw [hlease] at hi; cases hi

/-- Two calls of a store, each with one statement. -/
def exampleCalls (_ : Bool) : Call Bool Unit Unit ℕ :=
  .projection fun c => (query c "UPDATE hive_projection.projection_cursor" []).bind fun _ => .ret 1

abbrev ExampleSys :=
  Sys (Request Bool Unit) Request.Response (DatabaseError Unit) ℕ (Pool Bool Unit) Bool

def exampleStart : ExampleSys := ⟨emptyPool, fun i => (exampleCalls i).run i⟩

/-- One call after the other, each with seven requests. -/
def exampleSchedule : List (Bool × Unit) := List.replicate 7 (false, ()) ++ List.replicate 7 (true, ())

def exampleEnd : ExampleSys := exampleStart.follow exampleServer (fun i => (exampleCalls i).run i) exampleSchedule

/-- Two calls after one another over one connection have both committed, and have given it back. -/
theorem pooled_transactions_two : (∀ i, i ∈ exampleEnd.shared.committed) ∧
    ∀ c i, exampleEnd.shared.lease c ≠ .leased i := by
  have hwell (i : Bool) : (exampleCalls i).WellBehaved := fun c =>
    Prog.only_bind (Prog.only_request ⟨_, _, rfl, by decide⟩) fun _ => Prog.only_ret
  have hrun : Run (SysStep Env Answers fun i => (exampleCalls i).run i) exampleStart _ exampleEnd :=
    Sys.followed_run exampleServer_answers exampleSchedule exampleStart
  have honce : ∀ t ∈ exampleStart.followed exampleServer (fun i => (exampleCalls i).run i) exampleSchedule,
      ∀ i, t.label ≠ .restart i := by
    have hlabels : (exampleStart.followed exampleServer (fun i => (exampleCalls i).run i)
        exampleSchedule).all (fun t => match t.label with
          | .restart _ => false
          | _ => true) = true := by decide +kernel
    intro t ht i hi
    have hlabel := List.all_eq_true.mp hlabels t ht
    rw [hi] at hlabel
    cases hlabel
  obtain ⟨-, hended, -, -, hreturned, -⟩ := pooled_transactions exampleCalls hwell hrun honce
  have hprocs (i : Bool) : exampleEnd.procs i = .ret 1 := by cases i <;> rfl
  have hrefused : exampleEnd.shared.refused = [] := rfl
  refine ⟨fun i => (hreturned i 1 (hprocs i)).mpr ?_, fun c i => hended i (.ok 1) (hprocs i) c⟩
  show i ∉ exampleEnd.shared.refused
  rw [hrefused]
  exact List.not_mem_nil

end

end HiveChameleon.Database
