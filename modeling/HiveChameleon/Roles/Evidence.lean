import HiveChameleon.Lib.Run
import HiveChameleon.Roles.Tables

/-!
# Roles.Evidence — every assignment rests on evidence that names it

The trigger compares the audit event with the grant by `<>`, so an event without subject or role is
never found different, and a revocation is compared only when an update records it.  Apart from
these, what the tables accept is evidenced, stays evidenced, and does not overlap.
-/

namespace HiveChameleon.Roles

open Gateway Lib

/-- The audit event is the decision of `actor`, a player, about the subject, role and scope of an
assignment. -/
structure EvidenceOf (decision : AuthorizationDecision) (actor : Option Uuid) (a : RoleAssignmentRow)
    (event : AuditEventRow) : Prop where
  actorType : event.actorType = .player
  isPlayer : actor ≠ none
  actor : event.actorPlayerId = actor
  decision : event.decision = decision
  subject : event.subjectPlayerId = some a.playerId
  role : event.role = some a.role
  scopeType : event.scopeType = some a.scopeType
  scopeId : event.scopeId = a.scopeId

/-- The approval of an assignment: approved with its target, role, scope and validity by a player
who is not the granter. -/
structure ApprovalOf (a : RoleAssignmentRow) (approval : RoleApprovalRow) : Prop where
  approved : approval.state = .approved
  target : approval.targetPlayerId = a.playerId
  role : approval.role = a.role
  scopeType : approval.scopeType = a.scopeType
  scopeId : approval.scopeId = a.scopeId
  validFrom : approval.validFrom = a.validFrom
  validUntil : approval.validUntil = a.validUntil
  independent : ∃ player, approval.approvedByPlayerId = some player ∧ player ≠ a.grantedByPlayerId

/-- **Every assignment has its evidence**, and active ones of a key do not overlap. -/
structure Evidenced (db : RoleDb) : Prop where
  granted : ∀ a ∈ db.assignment, ∃ event ∈ db.audit, event.id = a.grantAuditEventId ∧
    EvidenceOf .grant (some a.grantedByPlayerId) a event
  revoked : ∀ a ∈ db.assignment, a.revokedAt ≠ none → ∃ event ∈ db.audit,
    a.revocationAuditEventId = some event.id ∧ EvidenceOf .revoke a.revokedByPlayerId a event
  approved : ∀ a ∈ db.assignment, highRisk a.role → ∃ approval ∈ db.approval,
    a.approvalId = some approval.id ∧ ApprovalOf a approval ∧
      ∀ b ∈ db.assignment, b.approvalId = a.approvalId → b = a
  disjoint : ∀ a ∈ db.assignment, ∀ b ∈ db.assignment, a ≠ b → a.revokedAt = none →
    b.revokedAt = none → a.assignmentKey = b.assignmentKey →
      ¬ ∃ time, a.validFrom ≤ time ∧ time < a.validStop ∧ b.validFrom ≤ time ∧ time < b.validStop

/-- **Evidence never changes**: audit events and decided approvals stay, and an assignment keeps its
grant, and its revocation once it is revoked. -/
structure EvidenceKept (db db' : RoleDb) : Prop where
  audit : ∀ event ∈ db.audit, event ∈ db'.audit
  approval : ∀ approval ∈ db.approval, approval.state ≠ .pending → approval ∈ db'.approval
  assignment : ∀ a ∈ db.assignment, ∃ b ∈ db'.assignment, b.sameGrant a ∧
    (a.revokedAt ≠ none → b = a)

/-- The event names a subject and a role. -/
def NamesSubject (db : RoleDb) (eventId : Uuid) : Prop :=
  ∀ event ∈ db.audit.find? eventId, event.subjectPlayerId ≠ none ∧ event.role ≠ none

instance (db : RoleDb) (eventId : Uuid) : Decidable (NamesSubject db eventId) :=
  inferInstanceAs (Decidable (∀ event ∈ db.audit.find? eventId, _))

/-- **Outside the defect**: the audit event that a statement cites names its subject and role, and no
assignment is inserted as revoked. -/
def CitesFully (db : RoleDb) : RoleStatement → Prop
  | .insertAssignment new => NamesSubject db new.grantAuditEventId ∧ new.revokedAt = none
  | .updateAssignment id new => ∀ old ∈ db.assignment.find? id, old.revokedAt = none →
      ∀ eventId ∈ new.revocationAuditEventId, NamesSubject db eventId
  | _ => True

instance (db : RoleDb) : (statement : RoleStatement) → Decidable (CitesFully db statement)
  | .insertAssignment _ => inferInstanceAs (Decidable (_ ∧ _))
  | .updateAssignment id new =>
    inferInstanceAs (Decidable (∀ old ∈ db.assignment.find? id, old.revokedAt = none →
      ∀ eventId ∈ new.revocationAuditEventId, NamesSubject db eventId))
  | .insertAuditEvent _ => isTrue trivial
  | .updateAuditEvent _ _ => isTrue trivial
  | .insertApproval _ => isTrue trivial
  | .updateApproval _ _ => isTrue trivial
  | .other _ => isTrue trivial

/-! ### What the tables carry -/

/-- What the constraints leave in the rows themselves, apart from the evidence. -/
structure RoleChecks (db : RoleDb) : Prop where
  actor : ∀ event ∈ db.audit, event.actorType = .player → event.actorPlayerId ≠ none
  approver : ∀ approval ∈ db.approval, approval.state = .approved →
    approval.approvedByPlayerId ≠ none
  revoker : ∀ a ∈ db.assignment, a.revokedAt ≠ none → a.revokedByPlayerId ≠ none

section

variable {db db' : RoleDb} {now : Instant} {resources : Resources} {a new old : RoleAssignmentRow}
  {event : AuditEventRow} {approval : RoleApprovalRow}

/-- **The trigger's condition, read for an event that names its subject and role.** -/
theorem evidenceOf_of_not_mismatch {decision : AuthorizationDecision} {actor : Option Uuid}
    (h : ¬ (evidenceMismatch event decision actor a).Holds) (hactor : actor ≠ none)
    (hplayer : event.actorType = .player → event.actorPlayerId ≠ none)
    (hnames : event.subjectPlayerId ≠ none ∧ event.role ≠ none) :
    EvidenceOf decision actor a event := by
  rw [evidenceMismatch, Truth.holds_anyOf] at h
  push Not at h
  simp only [List.mem_cons, List.not_mem_nil, or_false, forall_eq_or_imp, forall_eq,
    Truth.not_holds_ne_some, Truth.holds_isDistinctFrom, not_not, reduceCtorEq, false_or,
    Option.some.injEq] at h
  obtain ⟨htype, hby, hdecision, hsubject, hrole, hscopeType, hscopeId⟩ := h
  have hsome := hplayer htype
  refine ⟨htype, hactor, ?_, hdecision, hsubject.resolve_left hnames.1, hrole.resolve_left hnames.2,
    hscopeType, hscopeId⟩
  by_contra hne
  exact hby (Truth.holds_ne.mpr ⟨hsome, hactor, hne⟩)

theorem approvalOf_of_not_mismatch (h : ¬ (approvalMismatch now approval a).Holds)
    (hdecided : approval.state = .approved → approval.approvedByPlayerId ≠ none) :
    ApprovalOf a approval := by
  rw [approvalMismatch, Truth.holds_anyOf] at h
  push Not at h
  simp only [List.mem_cons, List.not_mem_nil, or_false, forall_eq_or_imp, forall_eq,
    Truth.not_holds_ne_some, Truth.holds_isDistinctFrom, not_not, reduceCtorEq, false_or,
    Option.some.injEq, Truth.holds_eq, Truth.holds_ofProp] at h
  obtain ⟨hstate, -, htarget, hrole, hscopeType, hscopeId, hfrom, huntil, -, happrover⟩ := h
  refine ⟨hstate, htarget, hrole, hscopeType, hscopeId, hfrom, huntil, ?_⟩
  obtain ⟨player, hplayer⟩ := Option.ne_none_iff_exists'.mp (hdecided hstate)
  refine ⟨player, hplayer, fun heq => happrover ⟨hdecided hstate, ?_⟩⟩
  rw [hplayer, heq]

theorem EvidenceOf.congr {decision : AuthorizationDecision} {actor : Option Uuid}
    (h : EvidenceOf decision actor old event) (hsame : new.sameGrant old) :
    EvidenceOf decision actor new event := by
  obtain ⟨hplayer, hrole, htype, hid, -⟩ := hsame
  exact ⟨h.actorType, h.isPlayer, h.actor, h.decision, by rw [hplayer]; exact h.subject,
    by rw [hrole]; exact h.role, by rw [htype]; exact h.scopeType, by rw [hid]; exact h.scopeId⟩

theorem ApprovalOf.congr (h : ApprovalOf old approval) (hsame : new.sameGrant old) :
    ApprovalOf new approval := by
  obtain ⟨hplayer, hrole, htype, hid, hfrom, huntil, hgranter, -⟩ := hsame
  refine ⟨h.approved, by rw [hplayer]; exact h.target, by rw [hrole]; exact h.role,
    by rw [htype]; exact h.scopeType, by rw [hid]; exact h.scopeId, by rw [hfrom]; exact h.validFrom,
    by rw [huntil]; exact h.validUntil, ?_⟩
  rw [hgranter]
  exact h.independent

theorem RoleAssignmentRow.sameGrant.rfl : a.sameGrant a :=
  ⟨Eq.refl _, Eq.refl _, Eq.refl _, Eq.refl _, Eq.refl _, Eq.refl _, Eq.refl _, Eq.refl _, Eq.refl _,
    Eq.refl _, Eq.refl _⟩

theorem RoleAssignmentRow.sameGrant.trans {b c : RoleAssignmentRow} (h : b.sameGrant a)
    (h' : c.sameGrant b) : c.sameGrant a := by
  obtain ⟨h₁, h₂, h₃, h₄, h₅, h₆, h₇, h₈, h₉, h₁₀, h₁₁⟩ := h
  obtain ⟨k₁, k₂, k₃, k₄, k₅, k₆, k₇, k₈, k₉, k₁₀, k₁₁⟩ := h'
  exact ⟨k₁.trans h₁, k₂.trans h₂, k₃.trans h₃, k₄.trans h₄, k₅.trans h₅, k₆.trans h₆, k₇.trans h₇,
    k₈.trans h₈, k₉.trans h₉, k₁₀.trans h₁₀, k₁₁.trans h₁₁⟩

/-! ### What an accepted statement wrote -/

theorem insertAuditEvent_eq_ok {row : AuditEventRow} (h : insertAuditEvent row db = .ok db') :
    (row.actorType = .player → row.actorPlayerId ≠ none) ∧
      (∀ b, b ∈ db'.audit ↔ b ∈ db.audit ∨ b = row) ∧
      db'.approval = db.approval ∧ db'.assignment = db.assignment := by
  simp only [insertAuditEvent, auditEventChecks, bind_eq_ok, exists_unit, require_eq_ok,
    pure_eq_ok] at h
  obtain ⟨⟨hactor, -⟩, table, htable, rfl⟩ := h
  refine ⟨fun hplayer => ?_, fun b => Table.mem_insert htable, rfl, rfl⟩
  rcases hactor with ⟨-, hsome, -⟩ | ⟨hservice, -⟩
  · exact hsome
  · rw [hplayer] at hservice
    cases hservice

theorem updateAuditEvent_eq_ok {id : Uuid} (h : updateAuditEvent id db = .ok db') : db' = db := by
  unfold updateAuditEvent at h
  split at h
  · exact (Except.ok.inj h).symm
  · cases h

/-- An approval is written once it passes its checks; a decided one is not changed. -/
structure ApprovalWritten (db db' : RoleDb) (row : RoleApprovalRow) : Prop where
  approver : row.state = .approved → row.approvedByPlayerId ≠ none
  mem : ∀ b ∈ db'.approval, b ∈ db.approval ∨ b = row
  kept : ∀ b ∈ db.approval, b.state ≠ .pending → b ∈ db'.approval
  audit : db'.audit = db.audit
  assignment : db'.assignment = db.assignment

theorem approver_of_checks {others : List RoleApprovalRow} {row : RoleApprovalRow}
    (h : approvalChecks resources others row = .ok ()) :
    row.state = .approved → row.approvedByPlayerId ≠ none := by
  simp only [approvalChecks, bind_eq_ok, exists_unit, require_eq_ok] at h
  obtain ⟨-, -, -, happroved, -⟩ := h
  exact fun hstate => (happroved hstate).1

theorem insertApproval_eq_ok {row : RoleApprovalRow} (h : insertApproval now row db = .ok db') :
    ApprovalWritten db db' row := by
  simp only [insertApproval, bind_eq_ok, exists_unit, pure_eq_ok] at h
  obtain ⟨-, hchecks, table, htable, rfl⟩ := h
  exact ⟨approver_of_checks hchecks, fun b hb => (Table.mem_insert htable).mp hb,
    fun b hb _ => (Table.mem_insert htable).mpr (.inl hb), rfl, rfl⟩

theorem updateApproval_eq_ok {id : Uuid} {row : RoleApprovalRow}
    (h : updateApproval now id row db = .ok db') : db' = db ∨ ApprovalWritten db db' row := by
  unfold updateApproval at h
  split at h
  · exact .inl (Except.ok.inj h).symm
  · rename_i found hfound
    simp only [bind_eq_ok, exists_unit, pure_eq_ok, hcValidateRoleApproval, require_eq_ok] at h
    obtain ⟨⟨-, -, -, hdecided, -⟩, hchecks, table, htable, -, rfl⟩ := h
    refine .inr ⟨approver_of_checks hchecks, fun b hb => ?_, fun b hb hstate => ?_, rfl, rfl⟩
    · rcases (Table.mem_replace htable).mp hb with ⟨hb, -⟩ | rfl
      · exact .inl hb
      · exact .inr rfl
    · by_cases hold : b = found
      · subst hold
        exact (Table.mem_replace htable).mpr (.inr (hdecided.resolve_left hstate).symm)
      · exact (Table.mem_replace htable).mpr (.inl ⟨hb, hold⟩)

/-- An assignment is written beside the `others`, with keys of its own. -/
structure AssignmentWritten (db db' : RoleDb) (others : List RoleAssignmentRow)
    (new : RoleAssignmentRow) : Prop where
  present : ∀ b ∈ others, b ∈ db.assignment
  mem : ∀ b, b ∈ db'.assignment ↔ b ∈ others ∨ b = new
  ownApproval : ∀ b ∈ others, new.approvalId = none ∨ b.approvalId ≠ new.approvalId
  disjoint : new.revokedAt = none → ∀ b ∈ others, b.revokedAt = none →
    b.assignmentKey = new.assignmentKey → ¬ b.overlaps new
  revoker : new.revokedAt ≠ none → new.revokedByPlayerId ≠ none
  audit : db'.audit = db.audit
  approval : db'.approval = db.approval

theorem assignmentWritten_of_checks {others : List RoleAssignmentRow} {table : Table RoleAssignmentRow (·.id)}
    (hchecks : assignmentChecks new = .ok ()) (hkeys : assignmentKeys others new = .ok ())
    (hothers : ∀ b ∈ others, b ∈ db.assignment) (hmem : ∀ b, b ∈ table ↔ b ∈ others ∨ b = new) :
    AssignmentWritten db { db with assignment := table } others new := by
  simp only [assignmentChecks, bind_eq_ok, exists_unit, require_eq_ok] at hchecks
  simp only [assignmentKeys, bind_eq_ok, exists_unit, require_eq_ok] at hkeys
  obtain ⟨-, -, -, hrevocation⟩ := hchecks
  obtain ⟨happroval, -, -, hdisjoint⟩ := hkeys
  have hapart : new.revokedAt = none → ∀ b ∈ others, b.revokedAt = none →
      b.assignmentKey = new.assignmentKey → ¬ b.overlaps new :=
    fun hnone b hb hbnone hkey hmeet => hdisjoint b hb ⟨hnone, hbnone, hkey, hmeet⟩
  refine ⟨hothers, hmem, happroval, hapart, fun hrevoked => ?_, rfl, rfl⟩
  rcases hrevocation with ⟨hnone, -⟩ | ⟨-, hby, -⟩
  · exact absurd hnone hrevoked
  · exact hby

/-- What the trigger found for a new grant. -/
structure GrantAccepted (db : RoleDb) (now : Instant) (new : RoleAssignmentRow) : Prop where
  event : ∃ event, db.audit.find? new.grantAuditEventId = some event ∧
    ¬ (grantMismatch event new).Holds
  approval : highRisk new.role → ∃ approval ∈ db.approval, new.approvalId = some approval.id ∧
    ¬ (approvalMismatch now approval new).Holds

theorem insertAssignment_eq_ok (h : insertAssignment now new db = .ok db') :
    GrantAccepted db now new ∧ AssignmentWritten db db' db.assignment.rows new := by
  simp only [insertAssignment, hcValidateRoleAssignment, hcValidateGrant, bind_eq_ok, exists_unit,
    pure_eq_ok, require_eq_ok] at h
  obtain ⟨⟨-, hevent, happroval⟩, hchecks, hkeys, table, htable, -, rfl⟩ := h
  refine ⟨⟨hevent, fun hrisk => ?_⟩, assignmentWritten_of_checks hchecks hkeys (fun b hb => hb)
    fun b => Table.mem_insert htable⟩
  cases hid : new.approvalId with
  | none =>
    rw [hid] at happroval
    exact absurd hrisk (require_eq_ok.mp happroval)
  | some approvalId =>
    rw [hid] at happroval
    obtain ⟨approval, hfind, hmatch⟩ := require_eq_ok.mp happroval
    obtain ⟨hmem, hkey⟩ := Table.find?_eq_some.mp hfind
    exact ⟨approval, hmem, by rw [← hkey], hmatch⟩

/-- What the trigger found for a new version of an assignment. -/
structure RevocationAccepted (db : RoleDb) (old new : RoleAssignmentRow) : Prop where
  sameGrant : new.sameGrant old
  final : old.revokedAt = none
  event : old.revokedAt = none ∧ new.revokedAt ≠ none → ∃ eventId ∈ new.revocationAuditEventId,
    ∃ event, db.audit.find? eventId = some event ∧ ¬ (revocationMismatch event new).Holds

theorem updateAssignment_eq_ok {id : Uuid} (h : updateAssignment now id new db = .ok db') :
    db' = db ∨ ∃ old, db.assignment.find? id = some old ∧ RevocationAccepted db old new ∧
      AssignmentWritten db db' (db.assignment.remove old).rows new := by
  unfold updateAssignment at h
  split at h
  · exact .inl (Except.ok.inj h).symm
  · rename_i found hfound
    simp only [hcValidateRoleAssignment, hcValidateRevocation, bind_eq_ok, exists_unit, pure_eq_ok,
      require_eq_ok] at h
    obtain ⟨⟨-, hsame, hfinal, hevent⟩, hchecks, hkeys, table, htable, -, rfl⟩ := h
    refine .inr ⟨found, hfound, ⟨hsame, hfinal, hevent⟩, assignmentWritten_of_checks hchecks hkeys
      (fun b hb => (Table.mem_remove.mp hb).1) fun b => ?_⟩
    rw [Table.mem_replace htable, Table.mem_rows, Table.mem_remove]

/-! ### The evidence of a new version -/

theorem RoleAssignmentRow.overlaps_of_time {b : RoleAssignmentRow} {time : Instant}
    (hb : b.validFrom ≤ time) (hb' : time < b.validStop) (ha : a.validFrom ≤ time)
    (ha' : time < a.validStop) : b.overlaps a :=
  ⟨hb.trans_lt hb', ha.trans_lt ha', hb.trans_lt ha', ha.trans_lt hb'⟩

/-- **Writing an assignment with its evidence keeps all evidenced.** -/
theorem Evidenced.write {others : List RoleAssignmentRow} (h : Evidenced db)
    (hw : AssignmentWritten db db' others new)
    (hgranted : ∃ event ∈ db.audit, event.id = new.grantAuditEventId ∧
      EvidenceOf .grant (some new.grantedByPlayerId) new event)
    (hrevoked : new.revokedAt ≠ none → ∃ event ∈ db.audit,
      new.revocationAuditEventId = some event.id ∧ EvidenceOf .revoke new.revokedByPlayerId new event)
    (happroved : highRisk new.role → ∃ approval ∈ db.approval, new.approvalId = some approval.id ∧
      ApprovalOf new approval) : Evidenced db' where
  granted b hb := by
    rw [hw.audit]
    rcases (hw.mem b).mp hb with hb | rfl
    · exact h.granted b (hw.present b hb)
    · exact hgranted
  revoked b hb hstate := by
    rw [hw.audit]
    rcases (hw.mem b).mp hb with hb | rfl
    · exact h.revoked b (hw.present b hb) hstate
    · exact hrevoked hstate
  approved b hb hrisk := by
    rw [hw.approval]
    rcases (hw.mem b).mp hb with hb | rfl
    · obtain ⟨approval, hmem, hid, hof, hown⟩ := h.approved b (hw.present b hb) hrisk
      refine ⟨approval, hmem, hid, hof, fun c hc hsame => ?_⟩
      rcases (hw.mem c).mp hc with hc | rfl
      · exact hown c (hw.present c hc) hsame
      · -- the new row has an approval of its own
        rcases hw.ownApproval b hb with hnone | hne
        · rw [hnone, hid] at hsame
          cases hsame
        · exact absurd hsame.symm hne
    · obtain ⟨approval, hmem, hid, hof⟩ := happroved hrisk
      refine ⟨approval, hmem, hid, hof, fun c hc hsame => ?_⟩
      rcases (hw.mem c).mp hc with hc | rfl
      · rcases hw.ownApproval c hc with hnone | hne
        · rw [hnone] at hid
          cases hid
        · exact absurd hsame hne
      · rfl
  disjoint b hb c hc hne hbnone hcnone hkey := by
    rintro ⟨time, hbfrom, hbstop, hcfrom, hcstop⟩
    rcases (hw.mem b).mp hb with hb | rfl <;> rcases (hw.mem c).mp hc with hc | rfl
    · exact h.disjoint b (hw.present b hb) c (hw.present c hc) hne hbnone hcnone hkey
        ⟨time, hbfrom, hbstop, hcfrom, hcstop⟩
    · exact hw.disjoint hcnone b hb hbnone hkey
        (RoleAssignmentRow.overlaps_of_time hbfrom hbstop hcfrom hcstop)
    · exact hw.disjoint hbnone c hc hcnone hkey.symm
        (RoleAssignmentRow.overlaps_of_time hcfrom hcstop hbfrom hbstop)
    · exact hne rfl

theorem Evidenced.insertAssignment (hc : RoleChecks db) (h : Evidenced db)
    (hnames : NamesSubject db new.grantAuditEventId) (hfresh : new.revokedAt = none)
    (hok : insertAssignment now new db = .ok db') : Evidenced db' := by
  obtain ⟨haccepted, hw⟩ := insertAssignment_eq_ok hok
  refine h.write hw ?_ (fun hrevoked => absurd hfresh hrevoked) fun hrisk => ?_
  · obtain ⟨event, hfind, hmatch⟩ := haccepted.event
    obtain ⟨hmem, hid⟩ := Table.find?_eq_some.mp hfind
    exact ⟨event, hmem, hid, evidenceOf_of_not_mismatch hmatch (Option.some_ne_none _)
      (hc.actor event hmem) (hnames event hfind)⟩
  · obtain ⟨approval, hmem, hid, hmatch⟩ := haccepted.approval hrisk
    exact ⟨approval, hmem, hid, approvalOf_of_not_mismatch hmatch (hc.approver approval hmem)⟩

theorem Evidenced.updateAssignment {id : Uuid} (hc : RoleChecks db) (h : Evidenced db)
    (hnames : ∀ old, db.assignment.find? id = some old → old.revokedAt = none →
      ∀ eventId ∈ new.revocationAuditEventId, NamesSubject db eventId)
    (hok : updateAssignment now id new db = .ok db') : Evidenced db' := by
  rcases updateAssignment_eq_ok hok with rfl | ⟨old, hfind, haccepted, hw⟩
  · exact h
  · obtain ⟨hold, -⟩ := Table.find?_eq_some.mp hfind
    have hsame := haccepted.sameGrant
    have hcolumns := hsame
    obtain ⟨-, hrole, -, -, -, -, hgranter, happroval, hevent, -⟩ := hcolumns
    refine h.write hw ?_ (fun hrevoked => ?_) fun hrisk => ?_
    · obtain ⟨event, hmem, hid, hof⟩ := h.granted old hold
      rw [hevent, hgranter]
      exact ⟨event, hmem, hid, hof.congr hsame⟩
    · obtain ⟨eventId, hcited, event, hevent, hmatch⟩ := haccepted.event ⟨haccepted.final, hrevoked⟩
      obtain ⟨hmem, hid⟩ := Table.find?_eq_some.mp hevent
      refine ⟨event, hmem, ?_, evidenceOf_of_not_mismatch hmatch (hw.revoker hrevoked)
        (hc.actor event hmem) (hnames old hfind haccepted.final eventId hcited event hevent)⟩
      rw [hid]
      exact hcited
    · rw [hrole] at hrisk
      obtain ⟨approval, hmem, hid, hof, -⟩ := h.approved old hold hrisk
      rw [happroval]
      exact ⟨approval, hmem, hid, hof.congr hsame⟩

/-! ### Steps -/

theorem roleChecks_fresh : RoleChecks (.fresh resources) where
  actor _ h := absurd h Table.not_mem_empty
  approver _ h := absurd h Table.not_mem_empty
  revoker _ h := absurd h Table.not_mem_empty

theorem evidenced_fresh : Evidenced (.fresh resources) where
  granted _ h := absurd h Table.not_mem_empty
  revoked _ h := absurd h Table.not_mem_empty
  approved _ h := absurd h Table.not_mem_empty
  disjoint _ h := absurd h Table.not_mem_empty

theorem RoleChecks.writeApproval {row : RoleApprovalRow} (h : RoleChecks db)
    (hw : ApprovalWritten db db' row) : RoleChecks db' where
  actor event hevent := h.actor event (hw.audit ▸ hevent)
  approver b hb := by
    rcases hw.mem b hb with hb | rfl
    · exact h.approver b hb
    · exact hw.approver
  revoker b hb := h.revoker b (hw.assignment ▸ hb)

theorem RoleChecks.writeAssignment {others : List RoleAssignmentRow} (h : RoleChecks db)
    (hw : AssignmentWritten db db' others new) : RoleChecks db' where
  actor event hevent := h.actor event (hw.audit ▸ hevent)
  approver b hb := h.approver b (hw.approval ▸ hb)
  revoker b hb := by
    rcases (hw.mem b).mp hb with hb | rfl
    · exact h.revoker b (hw.present b hb)
    · exact hw.revoker

theorem roleChecks_step {l : Instant × RoleStatement} (h : RoleChecks db) (hl : RoleStep db l db') :
    RoleChecks db' := by
  obtain ⟨time, statement⟩ := l
  cases statement with
  | insertAuditEvent row =>
    obtain ⟨hactor, hmem, happroval, hassignment⟩ := insertAuditEvent_eq_ok hl
    refine ⟨fun event hevent => ?_, fun b hb => h.approver b (happroval ▸ hb),
      fun b hb => h.revoker b (hassignment ▸ hb)⟩
    rcases (hmem event).mp hevent with hevent | rfl
    · exact h.actor event hevent
    · exact hactor
  | updateAuditEvent id row =>
    obtain rfl := updateAuditEvent_eq_ok hl
    exact h
  | insertApproval row => exact h.writeApproval (insertApproval_eq_ok hl)
  | updateApproval id row =>
    rcases updateApproval_eq_ok hl with rfl | hw
    · exact h
    · exact h.writeApproval hw
  | insertAssignment row => exact h.writeAssignment (insertAssignment_eq_ok hl).2
  | updateAssignment id row =>
    rcases updateAssignment_eq_ok hl with rfl | ⟨old, -, -, hw⟩
    · exact h
    · exact h.writeAssignment hw
  | other resources =>
    obtain rfl := Except.ok.inj hl
    exact ⟨h.actor, h.approver, h.revoker⟩

theorem Evidenced.grow (h : Evidenced db) (haudit : ∀ event ∈ db.audit, event ∈ db'.audit)
    (happroval : ∀ approval ∈ db.approval, approval.state ≠ .pending → approval ∈ db'.approval)
    (hassignment : db'.assignment = db.assignment) : Evidenced db' where
  granted a ha := by
    obtain ⟨event, hmem, hrest⟩ := h.granted a (hassignment ▸ ha)
    exact ⟨event, haudit event hmem, hrest⟩
  revoked a ha hrevoked := by
    obtain ⟨event, hmem, hrest⟩ := h.revoked a (hassignment ▸ ha) hrevoked
    exact ⟨event, haudit event hmem, hrest⟩
  approved a ha hrisk := by
    obtain ⟨approval, hmem, hid, hof, hown⟩ := h.approved a (hassignment ▸ ha) hrisk
    have hdecided : approval.state ≠ .pending := by
      rw [hof.approved]
      simp
    exact ⟨approval, happroval approval hmem hdecided, hid, hof,
      fun b hb => hown b (hassignment ▸ hb)⟩
  disjoint a ha b hb := h.disjoint a (hassignment ▸ ha) b (hassignment ▸ hb)

theorem evidenced_step {l : Instant × RoleStatement} (hc : RoleChecks db) (h : Evidenced db)
    (hcites : CitesFully db l.2) (hl : RoleStep db l db') : Evidenced db' := by
  obtain ⟨time, statement⟩ := l
  cases statement with
  | insertAuditEvent row =>
    obtain ⟨-, hmem, happroval, hassignment⟩ := insertAuditEvent_eq_ok hl
    exact h.grow (fun event hevent => (hmem event).mpr (.inl hevent))
      (fun b hb _ => happroval ▸ hb) hassignment
  | updateAuditEvent id row =>
    obtain rfl := updateAuditEvent_eq_ok hl
    exact h
  | insertApproval row =>
    have hw := insertApproval_eq_ok hl
    exact h.grow (fun event hevent => hw.audit ▸ hevent) hw.kept hw.assignment
  | updateApproval id row =>
    rcases updateApproval_eq_ok hl with rfl | hw
    · exact h
    · exact h.grow (fun event hevent => hw.audit ▸ hevent) hw.kept hw.assignment
  | insertAssignment row => exact h.insertAssignment hc hcites.1 hcites.2 hl
  | updateAssignment id row => exact h.updateAssignment hc hcites hl
  | other resources =>
    obtain rfl := Except.ok.inj hl
    exact ⟨h.granted, h.revoked, h.approved, h.disjoint⟩

/-! ### What never changes -/

theorem EvidenceKept.refl (db : RoleDb) : EvidenceKept db db :=
  ⟨fun _ h => h, fun _ h _ => h, fun a h => ⟨a, h, .rfl, fun _ => rfl⟩⟩

theorem EvidenceKept.trans {db'' : RoleDb} (h : EvidenceKept db db') (h' : EvidenceKept db' db'') :
    EvidenceKept db db'' where
  audit event hevent := h'.audit event (h.audit event hevent)
  approval b hb hstate := h'.approval b (h.approval b hb hstate) hstate
  assignment a ha := by
    obtain ⟨b, hb, hsame, hfinal⟩ := h.assignment a ha
    obtain ⟨c, hc, hsame', hfinal'⟩ := h'.assignment b hb
    refine ⟨c, hc, hsame.trans hsame', fun hrevoked => ?_⟩
    obtain rfl := hfinal hrevoked
    exact hfinal' hrevoked

/-- **Every accepted statement keeps the evidence**, whatever it cites. -/
theorem evidenceKept_step {l : Instant × RoleStatement} (hl : RoleStep db l db') :
    EvidenceKept db db' := by
  obtain ⟨time, statement⟩ := l
  have hgrown : (∀ event ∈ db.audit, event ∈ db'.audit) →
      (∀ approval ∈ db.approval, approval.state ≠ .pending → approval ∈ db'.approval) →
      db'.assignment = db.assignment → EvidenceKept db db' := by
    intro haudit happroval hassignment
    exact ⟨haudit, happroval, fun a ha => ⟨a, hassignment ▸ ha, .rfl, fun _ => rfl⟩⟩
  cases statement with
  | insertAuditEvent row =>
    obtain ⟨-, hmem, happroval, hassignment⟩ := insertAuditEvent_eq_ok hl
    exact hgrown (fun event hevent => (hmem event).mpr (.inl hevent))
      (fun b hb _ => happroval ▸ hb) hassignment
  | updateAuditEvent id row =>
    obtain rfl := updateAuditEvent_eq_ok hl
    exact .refl _
  | insertApproval row =>
    have hw := insertApproval_eq_ok hl
    exact hgrown (fun event hevent => hw.audit ▸ hevent) hw.kept hw.assignment
  | updateApproval id row =>
    rcases updateApproval_eq_ok hl with rfl | hw
    · exact .refl _
    · exact hgrown (fun event hevent => hw.audit ▸ hevent) hw.kept hw.assignment
  | insertAssignment row =>
    have hw := (insertAssignment_eq_ok hl).2
    exact ⟨fun event hevent => hw.audit ▸ hevent, fun b hb _ => hw.approval ▸ hb,
      fun a ha => ⟨a, (hw.mem a).mpr (.inl ha), .rfl, fun _ => rfl⟩⟩
  | updateAssignment id row =>
    rcases updateAssignment_eq_ok hl with rfl | ⟨old, -, haccepted, hw⟩
    · exact .refl _
    · refine ⟨fun event hevent => hw.audit ▸ hevent, fun b hb _ => hw.approval ▸ hb, fun a ha => ?_⟩
      by_cases hold : a = old
      · subst hold
        exact ⟨row, (hw.mem row).mpr (.inr rfl), haccepted.sameGrant,
          fun hrevoked => absurd haccepted.final hrevoked⟩
      · exact ⟨a, (hw.mem a).mpr (.inl (Table.mem_remove.mpr ⟨ha, hold⟩)), .rfl, fun _ => rfl⟩
  | other resources =>
    obtain rfl := Except.ok.inj hl
    exact hgrown (fun _ h => h) (fun _ h _ => h) rfl

/-! ### Runs -/

/-- **Role assignments and their evidence.**  In every run of accepted statements what was evidence
stays evidence; and where each statement cites events that name their subject and role, and inserts
no assignment as revoked, every state reached is evidenced. -/
theorem assignments_evidenced {ts : List (Transition RoleDb (Instant × RoleStatement))}
    (h : Run RoleStep (.fresh resources) ts db) :
    (∀ t ∈ ts, EvidenceKept t.pre db) ∧
      ((∀ t ∈ ts, CitesFully t.pre t.label.2) → Evidenced db ∧ ∀ t ∈ ts, Evidenced t.post) := by
  refine ⟨fun t ht => ?_, fun hcites => ?_⟩
  · obtain ⟨us, vs, -, -, hstep, hrest⟩ := h.split_of_mem ht
    have hkept : EvidenceKept t.post db := hrest.related (I := fun _ => True) EvidenceKept.refl
      (fun _ _ _ => EvidenceKept.trans) (fun _ _ _ _ hl => ⟨trivial, evidenceKept_step hl⟩) trivial
    exact (evidenceKept_step hstep).trans hkept
  · have hinv := h.invariant (I := fun db => RoleChecks db ∧ Evidenced db)
      (G := fun t => CitesFully t.pre t.label.2)
      (fun _ _ _ hm hG hl => ⟨roleChecks_step hm.1 hl, evidenced_step hm.1 hm.2 hG hl⟩)
      ⟨roleChecks_fresh, evidenced_fresh⟩ hcites
    exact ⟨hinv.1.2, fun t ht => (hinv.2 t ht).2.2⟩

end

/-! ### A grant, and what the trigger lets through -/

/-- A player's decision; its subject and role may be left out. -/
def roleDecision (id actor : Uuid) (decision : AuthorizationDecision) (subject : Option Uuid)
    (role : Option PlatformRole) : AuditEventRow where
  id := id
  actorType := .player
  actorPlayerId := some actor
  actorServiceName := none
  decision := decision
  action := "platform_role"
  subjectPlayerId := subject
  role := role
  scopeType := some .platform
  scopeId := none
  reasonCode := "staffing"

def instant (ms : ℤ) : Instant := WithBot.some (WithTop.some ms)

/-- A grant by player 1 to player 3. -/
def contentReviewerGrant (revocation : Option (Instant × Uuid × Uuid)) : RoleAssignmentRow where
  id := ⟨103⟩
  playerId := ⟨3⟩
  role := .contentReviewer
  scopeType := .platform
  scopeId := none
  validFrom := instant 0
  validUntil := none
  grantedByPlayerId := ⟨1⟩
  approvalId := none
  grantAuditEventId := ⟨101⟩
  reason := "review team"
  revokedAt := revocation.map (·.1)
  revokedByPlayerId := revocation.map (·.2.1)
  revocationReason := revocation.map fun _ => "ended"
  revocationAuditEventId := revocation.map (·.2.2)
  createdAt := instant 0

def staff : Resources := ⟨[⟨1⟩, ⟨2⟩, ⟨3⟩], [], []⟩

def RoleStatement.exec (db : RoleDb) (l : Instant × RoleStatement) : Option RoleDb :=
  (l.2.perform l.1 db).toOption

/-- Follows statements from the empty tables. -/
def followStatements (ls : List RoleStatement) :
    Option (List (Transition RoleDb (Instant × RoleStatement)) × RoleDb) :=
  replay RoleStatement.exec (.fresh staff) (ls.map fun l => (instant 0, l))

theorem followStatements_run {ls : List RoleStatement}
    {ts : List (Transition RoleDb (Instant × RoleStatement))} {db : RoleDb}
    (h : followStatements ls = some (ts, db)) : Run RoleStep (.fresh staff) ts db := by
  have hsound : ∀ s l s', RoleStatement.exec s l = some s' → RoleStep s l s' :=
    fun _ _ _ hexec => toOption_eq_some.mp hexec
  exact (replay_run hsound h).1

/-- Player 2 approves that player 1 makes player 3 an administrator. -/
def administratorApproval : RoleApprovalRow where
  id := ⟨105⟩
  targetPlayerId := ⟨3⟩
  role := .platformAdministrator
  scopeType := .platform
  scopeId := none
  validFrom := instant 0
  validUntil := none
  requestedByPlayerId := ⟨1⟩
  approvedByPlayerId := some ⟨2⟩
  state := .approved
  reason := "on call"
  requestedAt := instant 0
  expiresAt := instant 10
  decidedAt := some (instant 0)

def administratorGrant : RoleAssignmentRow :=
  { contentReviewerGrant none with
    id := ⟨106⟩
    role := .platformAdministrator
    approvalId := some ⟨105⟩
    grantAuditEventId := ⟨107⟩ }

/-- A grant and its revocation, and an approved grant of a high-risk role, with events that name them
in full. -/
theorem assignments_evidenced_revoked :
    ∃ ts db, Run RoleStep (.fresh staff) ts db ∧ (∃ a ∈ db.assignment, a.revokedAt ≠ none) ∧
      (∃ a ∈ db.assignment, highRisk a.role) ∧ Evidenced db ∧ ∀ t ∈ ts, EvidenceKept t.pre db := by
  have hfollow : (followStatements
      [.insertAuditEvent (roleDecision ⟨101⟩ ⟨1⟩ .grant (some ⟨3⟩) (some .contentReviewer)),
        .insertAssignment (contentReviewerGrant none),
        .insertAuditEvent (roleDecision ⟨104⟩ ⟨2⟩ .revoke (some ⟨3⟩) (some .contentReviewer)),
        .updateAssignment ⟨103⟩ (contentReviewerGrant (some (instant 5, ⟨2⟩, ⟨104⟩))),
        .insertApproval administratorApproval,
        .insertAuditEvent (roleDecision ⟨107⟩ ⟨1⟩ .grant (some ⟨3⟩) (some .platformAdministrator)),
        .insertAssignment administratorGrant]).any (fun r =>
          (∃ a ∈ r.2.assignment.rows, a.revokedAt ≠ none) ∧
            (∃ a ∈ r.2.assignment.rows, highRisk a.role) ∧
            ∀ t ∈ r.1, CitesFully t.pre t.label.2) = true := by
    decide +kernel
  obtain ⟨⟨ts, db⟩, hrun, hchecks⟩ := (Option.any_eq_true _ _).mp hfollow
  rw [decide_eq_true_eq] at hchecks
  have hrun := followStatements_run hrun
  obtain ⟨hkept, hevidenced⟩ := assignments_evidenced hrun
  exact ⟨ts, db, hrun, hchecks.1, hchecks.2.1, (hevidenced hchecks.2.2).1, hkept⟩

/-- The grant event names neither subject nor role: `NULL <> …` is not true, and the grant is
accepted.  So is an assignment that is revoked when it is inserted, whatever event it cites. -/
theorem not_evidenced_of_null_subject :
    (∃ ts db, Run RoleStep (.fresh staff) ts db ∧ ¬ Evidenced db ∧
      ∃ a ∈ db.assignment, ∃ event ∈ db.audit, event.id = a.grantAuditEventId ∧
        event.subjectPlayerId = none) ∧
    ∃ ts db, Run RoleStep (.fresh staff) ts db ∧ ¬ Evidenced db ∧
      ∃ a ∈ db.assignment, ∃ event ∈ db.audit, a.revocationAuditEventId = some event.id ∧
        event.decision ≠ .revoke := by
  constructor
  · have hfollow : (followStatements
        [.insertAuditEvent (roleDecision ⟨101⟩ ⟨1⟩ .grant none none),
          .insertAssignment (contentReviewerGrant none)]).any (fun r =>
            ∃ a ∈ r.2.assignment.rows, ∃ event ∈ r.2.audit.rows, event.id = a.grantAuditEventId ∧
              event.subjectPlayerId = none) = true := by decide +kernel
    obtain ⟨⟨ts, db⟩, hrun, hchecks⟩ := (Option.any_eq_true _ _).mp hfollow
    obtain ⟨a, ha, event, hevent, hid, hsubject⟩ := of_decide_eq_true hchecks
    refine ⟨ts, db, followStatements_run hrun, fun hall => ?_, a, ha, event, hevent, hid, hsubject⟩
    obtain ⟨event', hevent', hid', hof⟩ := hall.granted a ha
    obtain rfl := Table.eq_of_key hevent hevent' (hid.trans hid'.symm)
    have hnames := hof.subject
    rw [hsubject] at hnames
    cases hnames
  · have hfollow : (followStatements
        [.insertAuditEvent (roleDecision ⟨101⟩ ⟨1⟩ .grant (some ⟨3⟩) (some .contentReviewer)),
          .insertAssignment (contentReviewerGrant (some (instant 5, ⟨2⟩, ⟨101⟩)))]).any (fun r =>
            ∃ a ∈ r.2.assignment.rows, ∃ event ∈ r.2.audit.rows, a.revokedAt ≠ none ∧
              a.revocationAuditEventId = some event.id ∧ event.decision ≠ .revoke) = true := by
      decide +kernel
    obtain ⟨⟨ts, db⟩, hrun, hchecks⟩ := (Option.any_eq_true _ _).mp hfollow
    obtain ⟨a, ha, event, hevent, hrevoked, hid, hdecision⟩ := of_decide_eq_true hchecks
    refine ⟨ts, db, followStatements_run hrun, fun hall => ?_, a, ha, event, hevent, hid, hdecision⟩
    obtain ⟨event', hevent', hid', hof⟩ := hall.revoked a ha hrevoked
    have hsame : event.id = event'.id := Option.some.inj (hid.symm.trans hid')
    obtain rfl := Table.eq_of_key hevent hevent' hsame
    exact hdecision hof.decision

end HiveChameleon.Roles
