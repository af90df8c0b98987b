import HiveChameleon.Auth.Sessions
import HiveChameleon.Lib.Run
import Mathlib.Data.Fintype.Basic
import Mathlib.Logic.Function.Basic

/-!
# Auth.Transactions — the transactions on `auth_session` side by side

`READ COMMITTED`, statement by statement, for any number of connections.  A statement takes its
snapshot, waits for the rows that other transactions hold, and goes on with those that still match.
An insertion waits for the open rows of its player that other transactions have written and not
committed.  What a transaction wrote is invisible until it commits.
-/

namespace HiveChameleon.Auth

open Gateway Lib

/-- Where a transaction stands, with the rows that it holds. -/
inductive Phase where
  | begun
  | scanned (seen : List Uuid)
  | held (rows : List Uuid)
  | written (rows : List Uuid)
deriving DecidableEq, Repr

def Phase.rows : Phase → List Uuid
  | begun => []
  | scanned _ => []
  | held rows => rows
  | written rows => rows

namespace SessionRequest

/-- Where a transaction stands after its first statement: `revokeSession` has no other, and
`rotateSession` returns when it found no row. -/
def afterLock : SessionRequest → List Uuid → Phase
  | createSession _, rows => .held rows
  | rotateSession _ _ _, [] => .written []
  | rotateSession _ _ _, row :: rows => .held (row :: rows)
  | revokeSession _ _ _, rows => .written rows

/-- The statement that a transaction is at. -/
def statement (request : SessionRequest) (table : SessionTable) : Phase → Except AuthConstraint Phase
  | .begun => .ok (.scanned (request.scan table))
  | .scanned seen => do
    let rows ← request.lockRows seen table
    pure (request.afterLock rows)
  | .held rows => do
    request.secondStatement rows table
    pure (.written rows)
  | .written rows => .ok (.written rows)

/-- The rows that a transaction has written and not committed. -/
def uncommitted : SessionRequest → Phase → List Uuid
  | createSession _, .held rows => rows
  | _, .written rows => rows
  | _, _ => []

/-- The player for whom a transaction has inserted a session and not committed. -/
def insertedFor : SessionRequest → Phase → Option Uuid
  | createSession session, .written _ => some session.player.id
  | _, _ => none

/-- The new ids of a request. -/
def newIds : SessionRequest → List Uuid
  | createSession session => [session.id]
  | rotateSession _ _ _ => []
  | revokeSession _ _ _ => []

/-- The new refresh tokens of a request. -/
def newHashes : SessionRequest → List String
  | createSession session => [session.refreshTokenHash]
  | rotateSession _ next _ => [next]
  | revokeSession _ _ _ => []

end SessionRequest

/-- The committed rows, and the transaction that each connection has open. -/
structure AuthSystem (ι : Type) where
  authSession : SessionTable
  requests : ι → Option (SessionRequest × Phase)

namespace AuthSystem

variable {ι : Type}

/-- No transaction is open. -/
def start (table : SessionTable) : AuthSystem ι := ⟨table, fun _ => none⟩

def Holds (S : AuthSystem ι) (j : ι) (id : Uuid) : Prop := ∃ e ∈ S.requests j, id ∈ e.2.rows

/-- Connection `j` has written the row and not committed. -/
def Writes (S : AuthSystem ι) (j : ι) (id : Uuid) : Prop :=
  ∃ e ∈ S.requests j, id ∈ e.1.uncommitted e.2

/-- Connection `j` has inserted a session of the player and not committed. -/
def Inserts (S : AuthSystem ι) (j : ι) (player : Uuid) : Prop :=
  ∃ e ∈ S.requests j, e.1.insertedFor e.2 = some player

instance (S : AuthSystem ι) (j : ι) (id : Uuid) : Decidable (S.Holds j id) :=
  decidable_of_iff ((S.requests j).any (fun e => id ∈ e.2.rows) = true) (by
    unfold Holds
    cases S.requests j <;> simp)

instance (S : AuthSystem ι) (j : ι) (id : Uuid) : Decidable (S.Writes j id) :=
  decidable_of_iff ((S.requests j).any (fun e => id ∈ e.1.uncommitted e.2) = true) (by
    unfold Writes
    cases S.requests j <;> simp)

instance (S : AuthSystem ι) (j : ι) (player : Uuid) : Decidable (S.Inserts j player) :=
  decidable_of_iff ((S.requests j).any (fun e => e.1.insertedFor e.2 = some player) = true) (by
    unfold Inserts
    cases S.requests j <;> simp)

/-- What connection `i` waits for: a row that another holds, or, when it inserts, an open row of
its player that another has inserted or written. -/
def Waits (S : AuthSystem ι) (i : ι) : SessionRequest → Phase → Prop
  | _, .begun => False
  | _, .scanned seen => ∃ id ∈ seen, ∃ j, j ≠ i ∧ S.Holds j id
  | .createSession session, .held rows =>
    (∃ j, j ≠ i ∧ S.Inserts j session.player.id) ∨
      ∃ row ∈ S.authSession.rows, row.OpenFor session.player.id ∧ row.id ∉ rows ∧
        ∃ j, j ≠ i ∧ S.Writes j row.id
  | .rotateSession _ _ _, .held _ => False
  | .revokeSession _ _ _, .held _ => False
  | _, .written _ => False

section Moves

variable [DecidableEq ι]

/-- Connection `i` gets to a phase. -/
def put (S : AuthSystem ι) (i : ι) (request : SessionRequest) (phase : Phase) : AuthSystem ι :=
  ⟨S.authSession, Function.update S.requests i (some (request, phase))⟩

/-- The transaction of connection `i` ends. -/
def finish (S : AuthSystem ι) (i : ι) (table : SessionTable) : AuthSystem ι :=
  ⟨table, Function.update S.requests i none⟩

@[simp] theorem put_requests (S : AuthSystem ι) (i : ι) (request : SessionRequest) (phase : Phase) :
    (S.put i request phase).requests = Function.update S.requests i (some (request, phase)) := rfl

@[simp] theorem finish_requests (S : AuthSystem ι) (i : ι) (table : SessionTable) :
    (S.finish i table).requests = Function.update S.requests i none := rfl

variable [Fintype ι]

instance (S : AuthSystem ι) (i : ι) : ∀ (request : SessionRequest) (phase : Phase),
    Decidable (S.Waits i request phase)
  | _, .begun => isFalse id
  | _, .scanned seen => inferInstanceAs (Decidable (∃ id ∈ seen, ∃ j, j ≠ i ∧ S.Holds j id))
  | .createSession _, .held _ => inferInstanceAs (Decidable (_ ∨ _))
  | .rotateSession _ _ _, .held _ => isFalse id
  | .revokeSession _ _ _, .held _ => isFalse id
  | .createSession _, .written _ => isFalse id
  | .rotateSession _ _ _, .written _ => isFalse id
  | .revokeSession _ _ _, .written _ => isFalse id

end Moves

end AuthSystem

/-- What a step of a transaction is. -/
inductive AuthEvent where
  | statement
  | commit
  | abort (cause : AuthConstraint)
deriving DecidableEq, Repr

inductive AuthLabel (ι : Type) where
  | start (i : ι) (call : ServiceCall)
  | step (i : ι) (event : AuthEvent)

section Steps

variable {ι : Type} [DecidableEq ι]

/-- A statement brings the transaction of connection `i` to its next phase, or aborts it. -/
def AuthSystem.stepped (S : AuthSystem ι) (i : ι) (request : SessionRequest) :
    Except AuthConstraint Phase → AuthEvent × AuthSystem ι
  | .ok phase => (.statement, S.put i request phase)
  | .error cause => (.abort cause, S.finish i S.authSession)

def AuthSystem.committed (S : AuthSystem ι) (i : ι) :
    Except AuthConstraint SessionTable → AuthEvent × AuthSystem ι
  | .ok table => (.commit, S.finish i table)
  | .error cause => (.abort cause, S.finish i S.authSession)

variable [Fintype ι]

/-- The next step of the transaction of connection `i`, if there is one and it does not wait. -/
def advance (i : ι) (S : AuthSystem ι) : Option (AuthEvent × AuthSystem ι) :=
  match S.requests i with
  | none => none
  | some (request, phase) =>
    if S.Waits i request phase then none
    else match phase with
      | .written rows => some (S.committed i (request.commit rows S.authSession))
      | phase => some (S.stepped i request (request.statement S.authSession phase))

/-- The ids and tokens of a request are new: they were drawn at random. -/
def Unused (S : AuthSystem ι) (i : ι) (request : SessionRequest) : Prop :=
  (∀ id ∈ request.newIds, (∀ row ∈ S.authSession.rows, row.id ≠ id) ∧
    ∀ j, j ≠ i → ∀ e ∈ S.requests j, id ∉ e.1.newIds) ∧
  ∀ hash ∈ request.newHashes, (∀ row ∈ S.authSession.rows, row.refreshTokenHash ≠ hash) ∧
    ∀ j, j ≠ i → ∀ e ∈ S.requests j, hash ∉ e.1.newHashes

instance (S : AuthSystem ι) (i : ι) (request : SessionRequest) : Decidable (Unused S i request) :=
  inferInstanceAs (Decidable (_ ∧ _))

/-- Takes one step: a request begins its transaction, or a transaction goes on. -/
def perform (cfg : AuthConfig) (S : AuthSystem ι) : AuthLabel ι → Option (AuthSystem ι)
  | .start i call =>
    match call.request cfg with
    | none => none
    | some request =>
      if S.requests i = none ∧ Unused S i request then some (S.put i request .begun) else none
  | .step i event =>
    match advance i S with
    | none => none
    | some (event', S') => if event' = event then some S' else none

/-- One step of the transactions. -/
def AuthStep (cfg : AuthConfig) (S : AuthSystem ι) (l : AuthLabel ι) (S' : AuthSystem ι) : Prop :=
  perform cfg S l = some S'

end Steps

end HiveChameleon.Auth
