import HiveChameleon.Gateway.Protocol
import HiveChameleon.Lib.NullLogic
import HiveChameleon.Lib.Table
import Mathlib.Order.WithBot

/-!
# Roles.Tables — role assignments, their approvals and the authorization audit

The tables `identity.platform_role_assignment`, `identity.platform_role_approval` and
`identity.authorization_audit_event` with the triggers, checks, unique keys, foreign keys and the
exclusion constraint that their statements meet.  A trigger compares nullable columns with `<>`, so
its conditions are truth values of SQL.
-/

namespace HiveChameleon.Roles

open Gateway Lib

/-- A `timestamptz`, which may be infinite. -/
abbrev Instant := WithBot (WithTop Timestamp)

/-! Instants are compared by the linear order of the integers between two infinities. -/

instance instantLinearOrder : LinearOrder Instant :=
  @WithBot.linearOrder _ (@WithTop.linearOrder _ Int.instLinearOrder)

instance instantPreorder : Preorder Instant := instantLinearOrder.toPreorder

instance instantLE : LE Instant := instantLinearOrder.toLE

instance instantLT : LT Instant := instantLinearOrder.toLT

instance instantDecidableLE : DecidableLE Instant := instantLinearOrder.toDecidableLE

instance instantDecidableLT : DecidableLT Instant := instantLinearOrder.toDecidableLT

inductive PlatformRole where
  | contentReviewer | contentModerator | tournamentOperator | supportOperator | securityAuditor
  | platformAdministrator
deriving DecidableEq, Repr

inductive RoleScopeType where
  | platform | map | tournament
deriving DecidableEq, Repr

inductive RoleApprovalState where
  | pending | approved | rejected | expired | cancelled
deriving DecidableEq, Repr

inductive AuthorizationActorType where
  | player | service
deriving DecidableEq, Repr

inductive AuthorizationDecision where
  | allow | deny | grant | revoke
deriving DecidableEq, Repr

/-- `identity.authorization_audit_event` -/
structure AuditEventRow where
  id : Uuid
  actorType : AuthorizationActorType
  actorPlayerId : Option Uuid
  actorServiceName : Option String
  decision : AuthorizationDecision
  action : String
  subjectPlayerId : Option Uuid
  role : Option PlatformRole
  scopeType : Option RoleScopeType
  scopeId : Option Uuid
  reasonCode : String
deriving DecidableEq

/-- `identity.platform_role_approval` -/
structure RoleApprovalRow where
  id : Uuid
  targetPlayerId : Uuid
  role : PlatformRole
  scopeType : RoleScopeType
  scopeId : Option Uuid
  validFrom : Instant
  validUntil : Option Instant
  requestedByPlayerId : Uuid
  approvedByPlayerId : Option Uuid
  state : RoleApprovalState
  reason : String
  requestedAt : Instant
  expiresAt : Instant
  decidedAt : Option Instant
deriving DecidableEq

/-- `identity.platform_role_assignment` -/
structure RoleAssignmentRow where
  id : Uuid
  playerId : Uuid
  role : PlatformRole
  scopeType : RoleScopeType
  scopeId : Option Uuid
  validFrom : Instant
  validUntil : Option Instant
  grantedByPlayerId : Uuid
  approvalId : Option Uuid
  grantAuditEventId : Uuid
  reason : String
  revokedAt : Option Instant
  revokedByPlayerId : Option Uuid
  revocationReason : Option String
  revocationAuditEventId : Option Uuid
  createdAt : Instant
deriving DecidableEq

/-- The rows of other tables that foreign keys and scopes name. -/
structure Resources where
  players : List Uuid
  maps : List Uuid
  tournaments : List Uuid

structure RoleDb where
  audit : Table AuditEventRow (·.id)
  approval : Table RoleApprovalRow (·.id)
  assignment : Table RoleAssignmentRow (·.id)
  resources : Resources

/-- A statement that PostgreSQL refused. -/
inductive RoleError where
  | raised (sqlstate message : String)
  | constraint (name : String)
deriving DecidableEq, Repr

/-! ### Triggers -/

def hcValidateRoleScope (resources : Resources) (scopeType : RoleScopeType) (scopeId : Option Uuid) :
    Except RoleError Unit :=
  match scopeType with
  | .platform =>
    require (scopeId = none) (.raised "23514" "platform scope cannot carry a resource id")
  | .map =>
    require (∃ id ∈ resources.maps, scopeId = some id)
      (.raised "23503" "role scope map does not exist")
  | .tournament =>
    require (∃ id ∈ resources.tournaments, scopeId = some id)
      (.raised "23503" "role scope tournament does not exist")

/-- The request of an approval, which only its decision may follow. -/
def RoleApprovalRow.sameRequest (new old : RoleApprovalRow) : Prop :=
  new.targetPlayerId = old.targetPlayerId ∧ new.role = old.role ∧ new.scopeType = old.scopeType ∧
    new.scopeId = old.scopeId ∧ new.validFrom = old.validFrom ∧ new.validUntil = old.validUntil ∧
    new.requestedByPlayerId = old.requestedByPlayerId ∧ new.reason = old.reason ∧
    new.requestedAt = old.requestedAt ∧ new.expiresAt = old.expiresAt

instance (new old : RoleApprovalRow) : Decidable (new.sameRequest old) :=
  inferInstanceAs (Decidable (_ ∧ _))

/-- `hc_validate_role_approval`; `now` is `clock_timestamp()`. -/
def hcValidateRoleApproval (resources : Resources) (now : Instant) (old : Option RoleApprovalRow)
    (new : RoleApprovalRow) : Except RoleError Unit := do
  hcValidateRoleScope resources new.scopeType new.scopeId
  require (¬ (new.state = .approved ∧ new.expiresAt ≤ now))
    (.raised "23514" "expired role approval cannot be approved")
  require (¬ ∃ decidedAt ∈ new.decidedAt, decidedAt < new.requestedAt)
    (.raised "23514" "role approval decision cannot predate its request")
  match old with
  | none => pure ()
  | some old => do
    require (old.state = .pending ∨ new = old)
      (.raised "55000" "decided role approval is immutable")
    require (new.sameRequest old)
      (.raised "55000" "role approval request fields are immutable")

/-- The condition under which `hc_validate_role_assignment` rejects an audit event as the evidence
of a decision of `actor` about an assignment. -/
def evidenceMismatch (event : AuditEventRow) (decision : AuthorizationDecision) (actor : Option Uuid)
    (new : RoleAssignmentRow) : Truth :=
  .anyOf [.ne (some event.actorType) (some .player), .ne event.actorPlayerId actor,
    .ne (some event.decision) (some decision), .ne event.subjectPlayerId (some new.playerId),
    .ne event.role (some new.role), .isDistinctFrom event.scopeType (some new.scopeType),
    .isDistinctFrom event.scopeId new.scopeId]

def grantMismatch (event : AuditEventRow) (new : RoleAssignmentRow) : Truth :=
  evidenceMismatch event .grant (some new.grantedByPlayerId) new

def revocationMismatch (event : AuditEventRow) (new : RoleAssignmentRow) : Truth :=
  evidenceMismatch event .revoke new.revokedByPlayerId new

/-- The condition under which the trigger rejects an approval. -/
def approvalMismatch (now : Instant) (approval : RoleApprovalRow) (new : RoleAssignmentRow) : Truth :=
  .anyOf [.ne (some approval.state) (some .approved), .ofProp (approval.expiresAt ≤ now),
    .ne (some approval.targetPlayerId) (some new.playerId), .ne (some approval.role) (some new.role),
    .ne (some approval.scopeType) (some new.scopeType), .isDistinctFrom approval.scopeId new.scopeId,
    .ne (some approval.validFrom) (some new.validFrom),
    .isDistinctFrom approval.validUntil new.validUntil,
    .ne (some approval.requestedByPlayerId) (some new.grantedByPlayerId),
    .eq approval.approvedByPlayerId (some new.grantedByPlayerId)]

def highRisk (role : PlatformRole) : Prop := role = .platformAdministrator ∨ role = .securityAuditor

instance (role : PlatformRole) : Decidable (highRisk role) := inferInstanceAs (Decidable (_ ∨ _))

/-- The `INSERT` branch of `hc_validate_role_assignment`. -/
def hcValidateGrant (db : RoleDb) (now : Instant) (new : RoleAssignmentRow) : Except RoleError Unit := do
  require (∃ event, db.audit.find? new.grantAuditEventId = some event ∧
      ¬ (grantMismatch event new).Holds)
    (.raised "23514" "role grant requires matching append-only audit evidence")
  match new.approvalId with
  | some approvalId =>
    require (∃ approval, db.approval.find? approvalId = some approval ∧
        ¬ (approvalMismatch now approval new).Holds)
      (.raised "23514" "role assignment approval does not match the grant")
  | none =>
    require (¬ highRisk new.role)
      (.raised "23514" "high-risk role requires independent approval")

/-- The columns of a grant. -/
def RoleAssignmentRow.sameGrant (new old : RoleAssignmentRow) : Prop :=
  new.playerId = old.playerId ∧ new.role = old.role ∧ new.scopeType = old.scopeType ∧
    new.scopeId = old.scopeId ∧ new.validFrom = old.validFrom ∧ new.validUntil = old.validUntil ∧
    new.grantedByPlayerId = old.grantedByPlayerId ∧ new.approvalId = old.approvalId ∧
    new.grantAuditEventId = old.grantAuditEventId ∧ new.reason = old.reason ∧
    new.createdAt = old.createdAt

instance (new old : RoleAssignmentRow) : Decidable (new.sameGrant old) :=
  inferInstanceAs (Decidable (_ ∧ _))

/-- The `UPDATE` branch of `hc_validate_role_assignment`. -/
def hcValidateRevocation (db : RoleDb) (old new : RoleAssignmentRow) : Except RoleError Unit := do
  require (new.sameGrant old) (.raised "55000" "role grant fields are immutable")
  -- `NEW` differs from `OLD` always: its generated columns are null before the row is written
  require (old.revokedAt = none) (.raised "55000" "role revocation is immutable")
  require (old.revokedAt = none ∧ new.revokedAt ≠ none →
      ∃ eventId ∈ new.revocationAuditEventId, ∃ event, db.audit.find? eventId = some event ∧
        ¬ (revocationMismatch event new).Holds)
    (.raised "23514" "role revocation requires matching append-only audit evidence")

def hcValidateRoleAssignment (db : RoleDb) (now : Instant) (old : Option RoleAssignmentRow)
    (new : RoleAssignmentRow) : Except RoleError Unit := do
  hcValidateRoleScope db.resources new.scopeType new.scopeId
  match old with
  | none => hcValidateGrant db now new
  | some old => hcValidateRevocation db old new

/-! ### Constraints -/

/-- `FOREIGN KEY … REFERENCES identity.player` of a nullable column. -/
def playerExists (resources : Resources) (id : Option Uuid) : Prop := ∀ player ∈ id, player ∈ resources.players

instance (resources : Resources) (id : Option Uuid) : Decidable (playerExists resources id) :=
  inferInstanceAs (Decidable (∀ player ∈ id, _))

/-- The `CHECK` constraints and foreign keys of `authorization_audit_event`. -/
def auditEventChecks (resources : Resources) (row : AuditEventRow) : Except RoleError Unit := do
  require (row.actorType = .player ∧ row.actorPlayerId ≠ none ∧ row.actorServiceName = none ∨
      row.actorType = .service ∧ row.actorPlayerId = none ∧ row.actorServiceName ≠ none)
    (.constraint "chk_authorization_audit_actor")
  -- unknown passes a `CHECK`: without a scope type it holds of every scope id
  require (row.scopeType = none ∨ row.scopeType = some .platform ∧ row.scopeId = none ∨
      (row.scopeType = some .map ∨ row.scopeType = some .tournament) ∧ row.scopeId ≠ none)
    (.constraint "chk_authorization_audit_scope")
  require (playerExists resources row.actorPlayerId) (.constraint "fk_authorization_audit_actor")
  require (playerExists resources row.subjectPlayerId) (.constraint "fk_authorization_audit_subject")

/-- The shape of `chk_*_scope` and `chk_*_validity` of the two role tables. -/
def scopeAndValidity (table : String) (scopeType : RoleScopeType) (scopeId : Option Uuid)
    (validFrom : Instant) (validUntil : Option Instant) : Except RoleError Unit := do
  require (scopeType = .platform ∧ scopeId = none ∨ scopeType ≠ .platform ∧ scopeId ≠ none)
    (.constraint ("chk_" ++ table ++ "_scope"))
  require (∀ stop ∈ validUntil, validFrom < stop) (.constraint ("chk_" ++ table ++ "_validity"))

/-- The `CHECK` constraints, unique keys and foreign keys of `platform_role_approval`, beside the
`others` of its rows. -/
def approvalChecks (resources : Resources) (others : List RoleApprovalRow) (row : RoleApprovalRow) :
    Except RoleError Unit := do
  scopeAndValidity "platform_role_approval" row.scopeType row.scopeId row.validFrom row.validUntil
  require (row.requestedAt < row.expiresAt) (.constraint "chk_platform_role_approval_expiry")
  require (row.approvedByPlayerId ≠ some row.requestedByPlayerId)
    (.constraint "chk_platform_role_approval_separation")
  require (row.state = .approved → row.approvedByPlayerId ≠ none ∧ row.decidedAt ≠ none)
    (.constraint "chk_platform_role_approval_approved")
  require (row.state = .rejected ∨ row.state = .cancelled → row.decidedAt ≠ none)
    (.constraint "chk_platform_role_approval_decided")
  require (∀ other ∈ others, ¬ (other.state = .pending ∧ row.state = .pending ∧
      other.targetPlayerId = row.targetPlayerId ∧ other.role = row.role ∧
      other.scopeType = row.scopeType ∧ other.scopeId = row.scopeId))
    (.constraint "uq_platform_role_approval_one_pending")
  require (row.targetPlayerId ∈ resources.players) (.constraint "fk_platform_role_approval_target")
  require (row.requestedByPlayerId ∈ resources.players)
    (.constraint "fk_platform_role_approval_requester")
  require (playerExists resources row.approvedByPlayerId)
    (.constraint "fk_platform_role_approval_approver")

/-- `public.hc_role_assignment_key` -/
def RoleAssignmentRow.assignmentKey (row : RoleAssignmentRow) :
    Uuid × PlatformRole × RoleScopeType × Option Uuid :=
  (row.playerId, row.role, row.scopeType, row.scopeId)

/-- The upper bound of `valid_during`. -/
def RoleAssignmentRow.validStop (row : RoleAssignmentRow) : Instant := row.validUntil.getD ⊤

/-- `valid_during && valid_during`: two ranges `[lower, upper)` that are not empty meet. -/
def RoleAssignmentRow.overlaps (a b : RoleAssignmentRow) : Prop :=
  a.validFrom < a.validStop ∧ b.validFrom < b.validStop ∧
    a.validFrom < b.validStop ∧ b.validFrom < a.validStop

instance (a b : RoleAssignmentRow) : Decidable (a.overlaps b) := inferInstanceAs (Decidable (_ ∧ _))

/-- The `CHECK` constraints of `platform_role_assignment`. -/
def assignmentChecks (row : RoleAssignmentRow) : Except RoleError Unit := do
  scopeAndValidity "platform_role_assignment" row.scopeType row.scopeId row.validFrom row.validUntil
  require (row.playerId ≠ row.grantedByPlayerId)
    (.constraint "chk_platform_role_assignment_no_self_grant")
  require (∀ time ∈ row.revokedAt, row.validFrom ≤ time)
    (.constraint "chk_platform_role_assignment_revocation_time")
  require (row.revokedAt = none ∧ row.revokedByPlayerId = none ∧ row.revocationReason = none ∧
        row.revocationAuditEventId = none ∨
      row.revokedAt ≠ none ∧ row.revokedByPlayerId ≠ none ∧ row.revocationReason ≠ none ∧
        row.revocationAuditEventId ≠ none)
    (.constraint "chk_platform_role_assignment_revocation")

/-- Its unique keys and its exclusion constraint, beside the `others` of its rows. -/
def assignmentKeys (others : List RoleAssignmentRow) (row : RoleAssignmentRow) :
    Except RoleError Unit := do
  require (∀ other ∈ others, row.approvalId = none ∨ other.approvalId ≠ row.approvalId)
    (.constraint "platform_role_assignment_approval_id_key")
  require (∀ other ∈ others, other.grantAuditEventId ≠ row.grantAuditEventId)
    (.constraint "platform_role_assignment_grant_audit_event_id_key")
  require (∀ other ∈ others, row.revocationAuditEventId = none ∨
      other.revocationAuditEventId ≠ row.revocationAuditEventId)
    (.constraint "platform_role_assignment_revocation_audit_event_id_key")
  require (∀ other ∈ others, ¬ (row.revokedAt = none ∧ other.revokedAt = none ∧
      other.assignmentKey = row.assignmentKey ∧ other.overlaps row))
    (.constraint "ex_platform_role_assignment_no_overlap")

/-- Its foreign keys. -/
def assignmentReferences (db : RoleDb) (row : RoleAssignmentRow) : Except RoleError Unit := do
  require (row.playerId ∈ db.resources.players) (.constraint "fk_platform_role_assignment_player")
  require (row.grantedByPlayerId ∈ db.resources.players)
    (.constraint "fk_platform_role_assignment_granter")
  require (∀ id ∈ row.approvalId, (db.approval.find? id).isSome)
    (.constraint "fk_platform_role_assignment_approval")
  require (db.audit.find? row.grantAuditEventId).isSome
    (.constraint "fk_platform_role_assignment_grant_audit")
  require (playerExists db.resources row.revokedByPlayerId)
    (.constraint "fk_platform_role_assignment_revoker")
  require (∀ id ∈ row.revocationAuditEventId, (db.audit.find? id).isSome)
    (.constraint "fk_platform_role_assignment_revocation_audit")

/-! ### Statements -/

/-- A statement on one row; `UPDATE` names the row by its id and gives its new version.  Other
statements change the tables that foreign keys and scopes name. -/
inductive RoleStatement where
  | insertAuditEvent (new : AuditEventRow)
  | updateAuditEvent (id : Uuid) (new : AuditEventRow)
  | insertApproval (new : RoleApprovalRow)
  | updateApproval (id : Uuid) (new : RoleApprovalRow)
  | insertAssignment (new : RoleAssignmentRow)
  | updateAssignment (id : Uuid) (new : RoleAssignmentRow)
  | other (resources : Resources)

def insertAuditEvent (new : AuditEventRow) (db : RoleDb) : Except RoleError RoleDb := do
  auditEventChecks db.resources new
  let table ← db.audit.insert new (.constraint "authorization_audit_event_pkey")
  pure { db with audit := table }

/-- `hc_reject_row_mutation` -/
def updateAuditEvent (id : Uuid) (db : RoleDb) : Except RoleError RoleDb :=
  match db.audit.find? id with
  | none => .ok db
  | some _ => .error (.raised "55000" "identity.authorization_audit_event is append-only")

def insertApproval (now : Instant) (new : RoleApprovalRow) (db : RoleDb) :
    Except RoleError RoleDb := do
  hcValidateRoleApproval db.resources now none new
  approvalChecks db.resources db.approval.rows new
  let table ← db.approval.insert new (.constraint "platform_role_approval_pkey")
  pure { db with approval := table }

def updateApproval (now : Instant) (id : Uuid) (new : RoleApprovalRow) (db : RoleDb) :
    Except RoleError RoleDb :=
  match db.approval.find? id with
  | none => .ok db
  | some old => do
    hcValidateRoleApproval db.resources now (some old) new
    approvalChecks db.resources (db.approval.remove old).rows new
    let table ← db.approval.replace old new (.constraint "platform_role_approval_pkey")
    require (new.id = old.id ∨ ∀ row ∈ db.assignment.rows, row.approvalId ≠ some old.id)
      (.constraint "fk_platform_role_assignment_approval")
    pure { db with approval := table }

def insertAssignment (now : Instant) (new : RoleAssignmentRow) (db : RoleDb) :
    Except RoleError RoleDb := do
  hcValidateRoleAssignment db now none new
  assignmentChecks new
  assignmentKeys db.assignment.rows new
  let table ← db.assignment.insert new (.constraint "platform_role_assignment_pkey")
  assignmentReferences db new
  pure { db with assignment := table }

def updateAssignment (now : Instant) (id : Uuid) (new : RoleAssignmentRow) (db : RoleDb) :
    Except RoleError RoleDb :=
  match db.assignment.find? id with
  | none => .ok db
  | some old => do
    hcValidateRoleAssignment db now (some old) new
    assignmentChecks new
    assignmentKeys (db.assignment.remove old).rows new
    let table ← db.assignment.replace old new (.constraint "platform_role_assignment_pkey")
    assignmentReferences db new
    pure { db with assignment := table }

def RoleStatement.perform (now : Instant) (db : RoleDb) : RoleStatement → Except RoleError RoleDb
  | insertAuditEvent new => Roles.insertAuditEvent new db
  | updateAuditEvent id _ => Roles.updateAuditEvent id db
  | insertApproval new => Roles.insertApproval now new db
  | updateApproval id new => Roles.updateApproval now id new db
  | insertAssignment new => Roles.insertAssignment now new db
  | updateAssignment id new => Roles.updateAssignment now id new db
  | other resources => .ok { db with resources := resources }

/-- A statement that is accepted, at a time of the server's clock. -/
def RoleStep (db : RoleDb) (statement : Instant × RoleStatement) (db' : RoleDb) : Prop :=
  statement.2.perform statement.1 db = .ok db'

/-- No role was ever requested. -/
def RoleDb.fresh (resources : Resources) : RoleDb := ⟨.empty, .empty, .empty, resources⟩

end HiveChameleon.Roles
