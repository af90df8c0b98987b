import HiveChameleon.Auth.Rotation

/-!
# Auth.DisclosureFlags — which acknowledgment lets a player in

A session lookup, a rotation and a Google sign-in report a flag: the subject has acknowledged some
disclosure in force.  `getCurrentDisclosure` shows the newest one in force.  The two agree while one
version is in force at a time; where windows overlap, an old acknowledgment still counts.
-/

namespace HiveChameleon.Auth

open Gateway Lib
open Provisioning (Failure PlayerRow DisclosureAcknowledgmentRow)

/-! ### `rotateSession` -/

/-- `mapSession` of a session joined with its player, with `disclosureAcknowledgedSql`. -/
def mapSession (row : AuthSessionRow) (player : PlayerRow) (time : Timestamp) (db : IdentityDb) :
    ActiveSessionRecord where
  authSessionId := row.id
  disclosureAcknowledged := decide (playerAcknowledged player.id time db)
  expiresAt := row.expiresAt
  player := mapPlayer player
  playerId := player.id

/-- `rotateSession`, one transaction: the session it found, and the table with the new token. -/
def rotateSession (currentRefreshTokenHash nextRefreshTokenHash : String) (usedAt : Timestamp)
    (table : SessionTable) (db : IdentityDb) :
    Except AuthConstraint (Option ActiveSessionRecord × SessionTable) :=
  match table.rows.find? fun row =>
      row.refreshTokenHash = currentRefreshTokenHash && row.Active usedAt with
  | none => .ok (none, table)
  | some row =>
    match db.player.rows.find? fun player => player.id = row.playerId with
    | none => .ok (none, table)
    | some player => do
      let request := SessionRequest.rotateSession currentRefreshTokenHash nextRefreshTokenHash usedAt
      rotateRow request nextRefreshTokenHash [row.id] table
      pure (some (mapSession row player usedAt db),
        table.modify (fun other => other.id ∈ [row.id]) request.assignment)

/-! ### Subjects -/

/-- Who acknowledges a disclosure. -/
inductive DisclosureSubject where
  | player (id : Uuid)
  | googleIdentity (id : Uuid)
deriving DecidableEq, Repr

namespace DisclosureSubject

/-- The acknowledgment is one of the subject. -/
def Made (row : DisclosureAcknowledgmentRow) : DisclosureSubject → Prop
  | player id => row.playerId = some id
  | googleIdentity id => row.externalIdentityId = some id

instance (row : DisclosureAcknowledgmentRow) : ∀ subject : DisclosureSubject, Decidable (subject.Made row)
  | player id => inferInstanceAs (Decidable (row.playerId = some id))
  | googleIdentity id => inferInstanceAs (Decidable (row.externalIdentityId = some id))

def Acknowledged (subject : DisclosureSubject) (disclosureVersion : String) (db : IdentityDb) : Prop :=
  ∃ row ∈ db.disclosureAcknowledgment.rows, subject.Made row ∧ row.disclosureVersion = disclosureVersion

instance (subject : DisclosureSubject) (disclosureVersion : String) (db : IdentityDb) :
    Decidable (subject.Acknowledged disclosureVersion db) :=
  inferInstanceAs (Decidable (∃ _ ∈ _, _))

/-- **What a flag stands for**: the subject has acknowledged the version that was returned. -/
def AcknowledgedCurrent (subject : DisclosureSubject) (current : Option PublicRecordDisclosure)
    (db : IdentityDb) : Prop :=
  ∃ disclosure ∈ current, subject.Acknowledged disclosure.version db

instance (subject : DisclosureSubject) (current : Option PublicRecordDisclosure) (db : IdentityDb) :
    Decidable (subject.AcknowledgedCurrent current db) :=
  inferInstanceAs (Decidable (∃ _ ∈ _, _))

end DisclosureSubject

/-- **A flag that is reported** at a time: by a session lookup, by a rotation, or for a Google
identity. -/
inductive Reports (db : IdentityDb) (time : Timestamp) : DisclosureSubject → Bool → Prop
  | lookup {sessionId : Uuid} {table : SessionTable} {record : ActiveSessionRecord}
      (h : findActiveSession sessionId time table db = some record) :
      Reports db time (.player record.playerId) record.disclosureAcknowledged
  | rotation {currentRefreshTokenHash nextRefreshTokenHash : String} {table table' : SessionTable}
      {record : ActiveSessionRecord}
      (h : rotateSession currentRefreshTokenHash nextRefreshTokenHash time table db =
        .ok (some record, table')) :
      Reports db time (.player record.playerId) record.disclosureAcknowledged
  | identity {id : Uuid} {verifiedIssuer subjectLookupHash : String} {record : ExternalIdentityRecord}
      {db' : IdentityDb}
      (h : upsertGoogleIdentity id verifiedIssuer subjectLookupHash time db = .ok (.ok record, db')) :
      Reports db time (.googleIdentity record.id) record.disclosureAcknowledged

section Flags

variable {db : IdentityDb} {time : Timestamp} {subject : DisclosureSubject} {flag : Bool}
  {current : Option PublicRecordDisclosure}

/-- **What the flags test**: some version in force that the subject has acknowledged. -/
theorem reports_iff (h : Reports db time subject flag) :
    flag = true ↔ ∃ row ∈ db.publicRecordDisclosure.rows, row.InForce time ∧
      subject.Acknowledged row.disclosureVersion db := by
  cases h with
  | lookup h =>
    unfold findActiveSession at h
    split at h
    · cases h
    · obtain ⟨player, -, rfl⟩ := Option.map_eq_some_iff.mp h
      exact decide_eq_true_iff
  | rotation h =>
    unfold rotateSession at h
    split at h
    · cases h
    · split at h
      · cases h
      · simp only [bind_eq_ok, exists_unit, pure_eq_ok, Prod.mk.injEq, Option.some.injEq] at h
        obtain ⟨-, rfl, -⟩ := h
        exact decide_eq_true_iff
  | identity h =>
    unfold upsertGoogleIdentity at h
    simp only [bind_eq_ok, pure_eq_ok, Prod.exists, Prod.mk.injEq] at h
    obtain ⟨identity, db', -, hrecord, -⟩ := h
    unfold identityRecord at hrecord
    split at hrecord
    · rw [← Except.ok.inj hrecord]
      exact decide_eq_true_iff
    · split at hrecord
      · cases hrecord
      · rw [← Except.ok.inj hrecord]
        exact decide_eq_true_iff

theorem inForce_of_current (hcurrent : getCurrentDisclosure time db current)
    {disclosure : PublicRecordDisclosure} (hdisclosure : disclosure ∈ current) :
    ∃ row ∈ db.publicRecordDisclosure.rows, row.InForce time ∧
      row.disclosureVersion = disclosure.version := by
  rw [Option.mem_def.mp hdisclosure] at hcurrent
  obtain ⟨row, ⟨hrow, hforce, -⟩, rfl⟩ := hcurrent
  exact ⟨row, hrow, hforce, rfl⟩

theorem flag_of_current (hcurrent : getCurrentDisclosure time db current)
    (h : subject.AcknowledgedCurrent current db) :
    ∃ row ∈ db.publicRecordDisclosure.rows, row.InForce time ∧
      subject.Acknowledged row.disclosureVersion db := by
  obtain ⟨disclosure, hdisclosure, hmade⟩ := h
  obtain ⟨row, hrow, hforce, hversion⟩ := inForce_of_current hcurrent hdisclosure
  exact ⟨row, hrow, hforce, hversion ▸ hmade⟩

/-- **One set of acknowledgments**: the flag is right unless the subject has acknowledged a version in
force, and not the one that was returned. -/
theorem flag_iff_current (hcurrent : getCurrentDisclosure time db current)
    (hflag : Reports db time subject flag) :
    (flag = true ↔ subject.AcknowledgedCurrent current db) ↔
      ∀ row ∈ db.publicRecordDisclosure.rows, row.InForce time →
        subject.Acknowledged row.disclosureVersion db → subject.AcknowledgedCurrent current db := by
  rw [reports_iff hflag]
  constructor
  · intro h row hrow hforce hmade
    exact h.mp ⟨row, hrow, hforce, hmade⟩
  · intro h
    refine ⟨?_, flag_of_current hcurrent⟩
    rintro ⟨row, hrow, hforce, hmade⟩
    exact h row hrow hforce hmade

/-! ### Other acknowledgments -/

/-- The same tables with other acknowledgments. -/
def IdentityDb.withAcknowledgments (db : IdentityDb) (acks : Table DisclosureAcknowledgmentRow (·.id)) :
    IdentityDb :=
  { db with disclosureAcknowledgment := acks }

theorem upsertIdentity_withAcknowledgments {id : Uuid} {verifiedIssuer subjectLookupHash : String}
    {identity : Provisioning.ExternalIdentityRow} {db' : IdentityDb}
    (acks : Table DisclosureAcknowledgmentRow (·.id))
    (h : upsertIdentity id verifiedIssuer subjectLookupHash time db = .ok (identity, db')) :
    upsertIdentity id verifiedIssuer subjectLookupHash time (db.withAcknowledgments acks) =
      .ok (identity, db'.withAcknowledgments acks) := by
  unfold upsertIdentity at h ⊢
  simp only [bind_eq_ok, exists_unit] at h ⊢
  obtain ⟨hissuer, hhash, h⟩ := h
  refine ⟨hissuer, hhash, ?_⟩
  have hsame : (db.withAcknowledgments acks).externalIdentity = db.externalIdentity := rfl
  rw [hsame]
  split at h
  · simp only [bind_eq_ok, exists_unit, pure_eq_ok, Prod.mk.injEq] at h ⊢
    obtain ⟨htime, rfl, rfl⟩ := h
    exact ⟨htime, rfl, rfl⟩
  · simp only [bind_eq_ok, pure_eq_ok, Prod.mk.injEq] at h ⊢
    obtain ⟨table, htable, rfl, rfl⟩ := h
    exact ⟨table, htable, rfl, rfl⟩

theorem identityRecord_withAcknowledgments {identity : Provisioning.ExternalIdentityRow}
    {record : ExternalIdentityRecord} (acks : Table DisclosureAcknowledgmentRow (·.id))
    (h : identityRecord identity time db = .ok record) :
    ∃ made, identityRecord identity time (db.withAcknowledgments acks) = .ok made ∧ made.id = record.id := by
  unfold identityRecord at h ⊢
  split at h
  · exact ⟨_, rfl, by rw [← Except.ok.inj h]⟩
  · rename_i playerId hlinked
    have hsame : (db.withAcknowledgments acks).player = db.player := rfl
    simp only [hsame]
    split at h
    · cases h
    · exact ⟨_, rfl, by rw [← Except.ok.inj h]⟩

theorem reports_withAcknowledgments (h : Reports db time subject flag)
    (acks : Table DisclosureAcknowledgmentRow (·.id)) :
    ∃ flag', Reports (db.withAcknowledgments acks) time subject flag' := by
  cases h with
  | @lookup sessionId table record h =>
    unfold findActiveSession at h
    split at h
    · cases h
    · rename_i row hrow
      obtain ⟨player, hplayer, rfl⟩ := Option.map_eq_some_iff.mp h
      have hfound : findActiveSession sessionId time table (db.withAcknowledgments acks) =
          some (mapSession row player time (db.withAcknowledgments acks)) := by
        unfold findActiveSession
        rw [hrow]
        exact Option.map_eq_some_iff.mpr ⟨player, hplayer, rfl⟩
      have hreports := Reports.lookup hfound
      exact ⟨_, hreports⟩
  | @rotation currentHash nextHash table table' record h =>
    unfold rotateSession at h
    split at h
    · cases h
    · rename_i row hrow
      split at h
      · cases h
      · rename_i player hplayer
        simp only [bind_eq_ok, exists_unit, pure_eq_ok, Prod.mk.injEq, Option.some.injEq] at h
        obtain ⟨hrotated, rfl, rfl⟩ := h
        have hsame : (db.withAcknowledgments acks).player = db.player := rfl
        have hfound : rotateSession currentHash nextHash time table (db.withAcknowledgments acks) =
            .ok (some (mapSession row player time (db.withAcknowledgments acks)),
              table.modify (fun other => other.id ∈ [row.id])
                (SessionRequest.rotateSession currentHash nextHash time).assignment) := by
          unfold rotateSession
          rw [hrow]
          simp only [hsame, hplayer, bind_eq_ok, exists_unit, pure_eq_ok]
          exact ⟨hrotated, trivial⟩
        have hreports := Reports.rotation hfound
        exact ⟨_, hreports⟩
  | @identity id verifiedIssuer subjectLookupHash record db' h =>
    unfold upsertGoogleIdentity at h
    simp only [bind_eq_ok, pure_eq_ok, Prod.exists, Prod.mk.injEq] at h
    obtain ⟨identity, db'', hupserted, hrecord, rfl⟩ := h
    have hother := upsertIdentity_withAcknowledgments acks hupserted
    obtain ⟨made, hmade, hid⟩ := identityRecord_withAcknowledgments acks hrecord
    have hfound : upsertGoogleIdentity id verifiedIssuer subjectLookupHash time (db.withAcknowledgments acks) =
        .ok (.ok made, db''.withAcknowledgments acks) := by
      unfold upsertGoogleIdentity
      rw [hother, ← hmade]
      rfl
    have hreports := Reports.identity hfound
    rw [hid] at hreports
    exact ⟨_, hreports⟩

/-- The acknowledgment of one version by a subject. -/
def DisclosureSubject.acknowledgment (time : Timestamp) (disclosureVersion : String) :
    DisclosureSubject → DisclosureAcknowledgmentRow
  | .player id => ⟨⟨0⟩, disclosureVersion, none, some id, .directHivePreParticipation, time, none⟩
  | .googleIdentity id => ⟨⟨0⟩, disclosureVersion, some id, none, .googlePreProvisioning, time, none⟩

/-- A table with that acknowledgment and no other. -/
def DisclosureSubject.soleAcknowledgment (subject : DisclosureSubject) (time : Timestamp)
    (disclosureVersion : String) : Table DisclosureAcknowledgmentRow (·.id) :=
  ⟨[subject.acknowledgment time disclosureVersion], List.nodup_singleton _⟩

theorem acknowledged_sole {version disclosureVersion : String} :
    subject.Acknowledged version
        (db.withAcknowledgments (subject.soleAcknowledgment time disclosureVersion)) ↔
      disclosureVersion = version := by
  constructor
  · rintro ⟨row, hrow, -, hversion⟩
    rw [List.mem_singleton.mp hrow] at hversion
    cases subject with
    | player id => exact hversion
    | googleIdentity id => exact hversion
  · rintro rfl
    refine ⟨_, List.mem_singleton.mpr rfl, ?_⟩
    cases subject with
    | player id => exact ⟨rfl, rfl⟩
    | googleIdentity id => exact ⟨rfl, rfl⟩

/-- **Every set of acknowledgments**: the flag is right under all of them exactly when no version but the
one that was returned is in force. -/
theorem flags_iff_current (hcurrent : getCurrentDisclosure time db current)
    (hflag : Reports db time subject flag) :
    (∀ acks flag', Reports (db.withAcknowledgments acks) time subject flag' →
      (flag' = true ↔ subject.AcknowledgedCurrent current (db.withAcknowledgments acks))) ↔
      ∀ row ∈ db.publicRecordDisclosure.rows, row.InForce time →
        ∃ disclosure ∈ current, row.disclosureVersion = disclosure.version := by
  constructor
  · intro h row hrow hforce
    -- the subject has acknowledged this version and no other
    obtain ⟨flag', hreports⟩ := reports_withAcknowledgments hflag
      (subject.soleAcknowledgment time row.disclosureVersion)
    have htrue : flag' = true :=
      (reports_iff hreports).mpr ⟨row, hrow, hforce, acknowledged_sole.mpr rfl⟩
    obtain ⟨disclosure, hdisclosure, hmade⟩ := (h _ _ hreports).mp htrue
    exact ⟨disclosure, hdisclosure, acknowledged_sole.mp hmade⟩
  · intro h acks flag' hreports
    have hcurrent' : getCurrentDisclosure time (db.withAcknowledgments acks) current := by
      cases current with
      | none => exact hcurrent
      | some disclosure => exact hcurrent
    rw [flag_iff_current hcurrent' hreports]
    intro row hrow hforce hmade
    obtain ⟨disclosure, hdisclosure, hversion⟩ := h row hrow hforce
    exact ⟨disclosure, hdisclosure, hversion ▸ hmade⟩

end Flags

/-- **Flags and the current version**: a reported flag says that the subject has acknowledged the version
that `getCurrentDisclosure` returns exactly when no version in force is acknowledged without that one;
and it does so whatever is acknowledged exactly when no other version is in force. -/
theorem flags_match_current (db : IdentityDb) (time : Timestamp) (subject : DisclosureSubject) (flag : Bool)
    (current : Option PublicRecordDisclosure) (hcurrent : getCurrentDisclosure time db current)
    (hflag : Reports db time subject flag) :
    ((flag = true ↔ subject.AcknowledgedCurrent current db) ↔
      ∀ row ∈ db.publicRecordDisclosure.rows, row.InForce time →
        subject.Acknowledged row.disclosureVersion db → subject.AcknowledgedCurrent current db) ∧
    ((∀ acks flag', Reports (db.withAcknowledgments acks) time subject flag' →
      (flag' = true ↔ subject.AcknowledgedCurrent current (db.withAcknowledgments acks))) ↔
      ∀ row ∈ db.publicRecordDisclosure.rows, row.InForce time →
        ∃ disclosure ∈ current, row.disclosureVersion = disclosure.version) :=
  ⟨flag_iff_current hcurrent hflag, flags_iff_current hcurrent hflag⟩

/-! ### Two versions in force -/

def firstVersion : PublicRecordDisclosureRow where
  disclosureVersion := "2026-07"
  contentSha256 := String.ofList (List.replicate 64 'a')
  effectiveAt := 0
  retiredAt := none

/-- The version that follows, while the first is not retired. -/
def secondVersion : PublicRecordDisclosureRow where
  disclosureVersion := "2026-08"
  contentSha256 := String.ofList (List.replicate 64 'b')
  effectiveAt := 10
  retiredAt := none

def secondDisclosure : PublicRecordDisclosure :=
  ⟨secondVersion.contentSha256, secondVersion.effectiveAt, secondVersion.disclosureVersion⟩

/-- A player who has acknowledged the first version only. -/
def earlyPlayer : PlayerRow where
  id := ⟨1⟩
  hiveUsername := "early"
  hiveControlState := .externalSelfCustodial

def overlapDb : IdentityDb where
  provisioning := .empty
  custodyKey := .empty
  externalIdentity := .empty
  player := ⟨[earlyPlayer], by decide⟩
  disclosureAcknowledgment := ⟨[(DisclosureSubject.player ⟨1⟩).acknowledgment 5 "2026-07"], by decide⟩
  rcDelegation := []
  publicRecordDisclosure := ⟨[firstVersion, secondVersion], by decide⟩
  hiveLoginChallenge := .empty

def earlySession : AuthSessionRow where
  id := ⟨2⟩
  playerId := ⟨1⟩
  externalIdentityId := none
  refreshTokenHash := "token"
  platform := .linux
  authenticationMethod := .directHiveChallenge
  hiveSigningProvider := none
  hiveControlStateAtIssue := .externalSelfCustodial
  custodialSigningEligible := false
  issuedAt := 4
  lastUsedAt := none
  expiresAt := 3600000
  revokedAt := none
  revocationReason := none

def overlapSessions : SessionTable := ⟨[earlySession], by decide⟩

theorem secondDisclosure_current : getCurrentDisclosure 20 overlapDb (some secondDisclosure) := by
  have hnewest : ∀ other ∈ overlapDb.publicRecordDisclosure.rows, other.InForce 20 →
      other.effectiveAt ≤ secondVersion.effectiveAt := by decide
  exact ⟨secondVersion, ⟨by decide, by decide, hnewest⟩, rfl⟩

/-- **An old acknowledgment still counts**: the second version is current, the player has acknowledged the
first, and the lookup of the session reports an acknowledgment. -/
theorem old_acknowledgment_counts :
    getCurrentDisclosure 20 overlapDb (some secondDisclosure) ∧
      ∃ record, findActiveSession ⟨2⟩ 20 overlapSessions overlapDb = some record ∧
        record.disclosureAcknowledged = true ∧
        ¬ (DisclosureSubject.player record.playerId).AcknowledgedCurrent (some secondDisclosure) overlapDb :=
  ⟨secondDisclosure_current, mapSession earlySession earlyPlayer 20 overlapDb, by decide, by decide, by decide⟩

theorem flags_match_current_overlap :
    ((true = true ↔ (DisclosureSubject.player ⟨1⟩).AcknowledgedCurrent (some secondDisclosure) overlapDb) ↔
      ∀ row ∈ overlapDb.publicRecordDisclosure.rows, row.InForce 20 →
        (DisclosureSubject.player ⟨1⟩).Acknowledged row.disclosureVersion overlapDb →
        (DisclosureSubject.player ⟨1⟩).AcknowledgedCurrent (some secondDisclosure) overlapDb) :=
  (flags_match_current overlapDb 20 (.player ⟨1⟩) true (some secondDisclosure) secondDisclosure_current
    (Reports.lookup (show findActiveSession ⟨2⟩ 20 overlapSessions overlapDb =
      some (mapSession earlySession earlyPlayer 20 overlapDb) by decide))).1

end HiveChameleon.Auth
