import HiveChameleon.Auth.Login
import HiveChameleon.Provisioning.Safety

/-!
# Auth.Provenance — where the sessions of logins come from

Over every run of logins, refreshes and logouts on any number of connections: a session opened with
Hive used a challenge of its own, which the login consumed in time, and whose text was signed by a
key that the posting authority check accepted; a session opened with Google belongs to the player
that the verified subject is linked to.
-/

namespace HiveChameleon.Auth

open Gateway Lib

/-! ### What a run shows -/

section History

variable {ι : Type}

abbrev LoginTransition (ι : Type) := Transition (LoginSystem ι) (LoginLabel ι)

/-- The step opens a session: its transaction commits. -/
def Opens (t : LoginTransition ι) (i : ι) (session : NewSession) : Prop :=
  t.label = .transaction i .commit ∧
    ∃ rows, t.pre.auth.requests i = some (.createSession session, .written rows)

/-- The challenge that a login has consumed. -/
def Attempt.challengeId : Attempt → Option Uuid
  | verifying _ challenge _ => some challenge.id
  | hivePlayer _ challenge _ _ => some challenge.id
  | idle => none
  | consuming _ => none
  | exchanging _ => none
  | identifying _ _ => none
  | identified _ _ _ => none

/-- The challenge of the login whose transaction commits in the step. -/
def usedIn (t : LoginTransition ι) : Option Uuid :=
  match t.label with
  | .transaction i .commit => (t.pre.attempts i).challengeId
  | _ => none

/-- The challenge that the step consumes. -/
def consumedIn (t : LoginTransition ι) : Option Uuid :=
  match t.label with
  | .consume i => (t.post.attempts i).challengeId
  | _ => none

/-- What a Hive node answered to connection `i` in the step. -/
def fetchedIn [DecidableEq ι] (i : ι) (t : LoginTransition ι) : Option AccountAnswer :=
  match t.label with
  | .fetched j answer => if j = i then some answer else none
  | _ => none

/-- The challenge was there at the start, or the service issued it. -/
def Issued (cfg : LoginConfig) (db : IdentityDb) (ts : List (LoginTransition ι))
    (row : HiveLoginChallengeRow) : Prop :=
  row ∈ db.hiveLoginChallenge ∨ ∃ t ∈ ts, ∃ draw hiveUsername platform now,
    t.label = .createHiveChallenge draw hiveUsername platform now ∧
      row = newChallenge cfg draw hiveUsername platform now

/-- The login on connection `i` consumed the challenge of `row`, and has got the answers since. -/
structure Consumption [DecidableEq ι] (cfg : LoginConfig) (db : IdentityDb)
    (ts : List (LoginTransition ι)) (i : ι) (login : HiveLogin) (row : HiveLoginChallengeRow)
    (answers : List AccountAnswer) (us : List (LoginTransition ι)) (t : LoginTransition ι)
    (vs : List (LoginTransition ι)) : Prop where
  split : ts = us ++ t :: vs
  label : t.label = .consume i
  row_mem : row ∈ t.pre.identity.hiveLoginChallenge
  consumable : Consumable login.challengeId login.hiveUsername login.now row
  consumed : consumedIn t = some row.id
  issued : Issued cfg db us row
  answers : vs.filterMap (fetchedIn i) = answers

/-- A session that was opened with Hive: the challenge of `row` is used, was issued for the player's
username and the session's platform, was consumed in time by the login, and the exact text is signed
by a key that the check accepted for the username. -/
structure HiveProvenance [DecidableEq ι] (cfg : LoginConfig) (db : IdentityDb)
    (before : List (LoginTransition ι)) (t : LoginTransition ι) (i : ι) (session : NewSession)
    (login : HiveLogin) (row : HiveLoginChallengeRow) (recoveredKey : String) : Prop where
  used : usedIn t = some row.id
  username : session.player.hiveUsername = row.hiveUsername
  platform : session.platform = row.platform
  clock : session.issuedAt = login.now
  signed : recoverSigner cfg row.challengeText login.signature = some recoveredKey
  consumption : ∃ answers us consume vs,
    Consumption cfg db before i login row answers us consume vs ∧
      (keyCanSatisfyPostingAuthority recoveredKey 3 [] row.hiveUsername).feed answers = .ret true

/-- A session that was opened with Google: its player is linked to the verified subject, which has
one identity, not disabled. -/
structure GoogleProvenance (cfg : LoginConfig) (before : List (LoginTransition ι))
    (t : LoginTransition ι) (i : ι) (session : NewSession) (identity : Provisioning.GoogleIdentity)
    (row : Provisioning.ExternalIdentityRow) : Prop where
  verified : ∃ t ∈ before, t.label = .exchanged i identity
  row_mem : row ∈ t.pre.identity.externalIdentity
  subject : IsSubject identity.issuer (cfg.subjectLookupHash identity) row
  only : ∀ other ∈ t.pre.identity.externalIdentity,
    IsSubject identity.issuer (cfg.subjectLookupHash identity) other → other = row
  session_identity : session.externalIdentityId = some row.id
  linked : row.playerId = some session.player.id
  enabled : row.status ≠ .disabled

/-- The row is what is left of a session. -/
structure OfSession (session : NewSession) (row : AuthSessionRow) : Prop where
  id : row.id = session.id
  playerId : row.playerId = session.player.id
  externalIdentityId : row.externalIdentityId = session.externalIdentityId
  platform : row.platform = session.platform
  method : row.authenticationMethod = session.authenticationMethod

/-- The row is there from the start, or a step of the run opened it. -/
def Accounted (table : SessionTable) (ts : List (LoginTransition ι)) (row : AuthSessionRow) : Prop :=
  (∃ old ∈ table, old.id = row.id) ∨ ∃ t ∈ ts, ∃ i session, Opens t i session ∧ OfSession session row

/-- **Every session goes back to a verified login**, and no proof opens two. -/
structure LoginProvenance [DecidableEq ι] (cfg : LoginConfig) (db : IdentityDb)
    (table : SessionTable) (ts : List (LoginTransition ι)) (S : LoginSystem ι) : Prop where
  accounted : ∀ row ∈ S.auth.authSession, Accounted table ts row
  hive : ∀ before t after i session, ts = before ++ t :: after → Opens t i session →
    session.authenticationMethod = .directHiveChallenge →
      ∃ login row recoveredKey, HiveProvenance cfg db before t i session login row recoveredKey
  used_once : (ts.filterMap usedIn).Nodup
  consumed_once : (ts.filterMap consumedIn).Nodup
  google : ∀ before t after i session, ts = before ++ t :: after → Opens t i session →
    session.authenticationMethod = .googleOidc →
      ∃ identity row, GoogleProvenance cfg before t i session identity row

theorem Issued.mono {cfg : LoginConfig} {db : IdentityDb} {ts us : List (LoginTransition ι)}
    {row : HiveLoginChallengeRow}
    (h : Issued cfg db ts row) (hsub : ts ⊆ us) : Issued cfg db us row := by
  rcases h with h | ⟨t, ht, h⟩
  · exact .inl h
  · exact .inr ⟨t, hsub ht, h⟩

theorem Accounted.mono {table : SessionTable} {ts us : List (LoginTransition ι)}
    {row : AuthSessionRow}
    (h : Accounted table ts row) (hsub : ts ⊆ us) : Accounted table us row := by
  rcases h with h | ⟨t, ht, h⟩
  · exact .inl h
  · exact .inr ⟨t, hsub ht, h⟩

end History

/-! ### Identities -/

/-- Google identities: one for each subject, and without a player until they are linked. -/
structure ValidIdentities (db : IdentityDb) : Prop where
  one : ∀ a ∈ db.externalIdentity, ∀ b ∈ db.externalIdentity, a.verifiedIssuer = b.verifiedIssuer →
    a.subjectLookupHash = b.subjectLookupHash → a = b
  unlinked : ∀ row ∈ db.externalIdentity, row.status = .provisioning → row.playerId = none

/-- The identity has a player, and may log in. -/
structure LinkedTo (db : IdentityDb) (id playerId : Uuid) (verifiedIssuer subjectLookupHash : String)
    (row : Provisioning.ExternalIdentityRow) : Prop where
  mem : row ∈ db.externalIdentity
  id_eq : row.id = id
  subject : IsSubject verifiedIssuer subjectLookupHash row
  linked : row.playerId = some playerId
  enabled : row.status ≠ .disabled

/-- A change of the tables that keeps the links of identities. -/
def KeepsLinks (db db' : IdentityDb) : Prop :=
  ∀ id playerId verifiedIssuer subjectLookupHash row,
    LinkedTo db id playerId verifiedIssuer subjectLookupHash row →
      ∃ row', LinkedTo db' id playerId verifiedIssuer subjectLookupHash row'

theorem keepsLinks_of_eq {db db' : IdentityDb} (h : db'.externalIdentity = db.externalIdentity) :
    KeepsLinks db db' := by
  intro id playerId verifiedIssuer subjectLookupHash row hrow
  exact ⟨row, h ▸ hrow.mem, hrow.id_eq, hrow.subject, hrow.linked, hrow.enabled⟩

theorem ValidIdentities.of_eq {db db' : IdentityDb} (hvalid : ValidIdentities db)
    (h : db'.externalIdentity = db.externalIdentity) : ValidIdentities db' := by
  refine ⟨?_, ?_⟩
  · rw [h]
    exact hvalid.one
  · rw [h]
    exact hvalid.unlinked

theorem ValidIdentities.modify {db db' : IdentityDb} (hvalid : ValidIdentities db)
    {p : Provisioning.ExternalIdentityRow → Prop} [DecidablePred p]
    {set : Table.Assignment Provisioning.ExternalIdentityRow.id}
    (hset : db'.externalIdentity = db.externalIdentity.modify p set)
    (hsubject : ∀ row, (set row).verifiedIssuer = row.verifiedIssuer ∧
      (set row).subjectLookupHash = row.subjectLookupHash)
    (hstatus : ∀ row, (set row).status = .provisioning →
      row.status = .provisioning ∧ (set row).playerId = row.playerId) :
    ValidIdentities db' := by
  refine ⟨fun a ha b hb hissuer hhash => ?_, fun row hrow hprovisioning => ?_⟩
  · rw [hset] at ha hb
    obtain ⟨a', ha', rfl⟩ := Table.mem_modify.mp ha
    obtain ⟨b', hb', rfl⟩ := Table.mem_modify.mp hb
    rw [Table.updated_eq fun row => (hsubject row).1, Table.updated_eq fun row => (hsubject row).1]
      at hissuer
    rw [Table.updated_eq fun row => (hsubject row).2, Table.updated_eq fun row => (hsubject row).2]
      at hhash
    rw [hvalid.one a' ha' b' hb' hissuer hhash]
  · rw [hset] at hrow
    rcases Table.mem_modify_cases hrow with ⟨old, hold, -, rfl⟩ | ⟨hold, -⟩
    · obtain ⟨hold', hplayer⟩ := hstatus old hprovisioning
      exact hplayer.trans (hvalid.unlinked old hold hold')
    · exact hvalid.unlinked row hold hprovisioning

theorem KeepsLinks.modify {db db' : IdentityDb} {p : Provisioning.ExternalIdentityRow → Prop}
    [DecidablePred p] {set : Table.Assignment Provisioning.ExternalIdentityRow.id}
    (hset : db'.externalIdentity = db.externalIdentity.modify p set)
    (hsubject : ∀ row, (set row).verifiedIssuer = row.verifiedIssuer ∧
      (set row).subjectLookupHash = row.subjectLookupHash)
    (hlink : ∀ row ∈ db.externalIdentity, p row → row.playerId ≠ none →
      (set row).playerId = row.playerId ∧ (set row).status = row.status) :
    KeepsLinks db db' := by
  intro id playerId verifiedIssuer subjectLookupHash row hrow
  have hsome : row.playerId ≠ none := by
    rw [hrow.linked]
    exact Option.some_ne_none _
  have hsame : (Table.updated p set row).playerId = row.playerId ∧
      (Table.updated p set row).status = row.status := by
    by_cases hp : p row
    · rw [Table.updated_of hp]
      exact hlink row hrow.mem hp hsome
    · rw [Table.updated_of_not hp]
      exact ⟨rfl, rfl⟩
  refine ⟨Table.updated p set row, hset ▸ Table.updated_mem_modify hrow.mem,
    (Table.key_updated row).trans hrow.id_eq, ⟨?_, ?_⟩, hsame.1.trans hrow.linked, ?_⟩
  · exact (Table.updated_eq (fun row => (hsubject row).1) row).trans hrow.subject.1
  · exact (Table.updated_eq (fun row => (hsubject row).2) row).trans hrow.subject.2
  · rw [hsame.2]
    exact hrow.enabled

/-- `upsertIdentity` keeps identities valid and their links. -/
theorem upsertIdentity_spec {id : Uuid} {verifiedIssuer subjectLookupHash : String}
    {time : Timestamp} {db db' : IdentityDb} {row : Provisioning.ExternalIdentityRow}
    (hvalid : ValidIdentities db)
    (hok : upsertIdentity id verifiedIssuer subjectLookupHash time db = .ok (row, db')) :
    ValidIdentities db' ∧ KeepsLinks db db' ∧ row ∈ db'.externalIdentity ∧
      IsSubject verifiedIssuer subjectLookupHash row ∧
        db'.hiveLoginChallenge = db.hiveLoginChallenge := by
  simp only [upsertIdentity, bind_eq_ok, exists_unit] at hok
  obtain ⟨-, -, hok⟩ := hok
  split at hok
  · rename_i old hfind
    simp only [bind_eq_ok, exists_unit, require_eq_ok, pure_eq_ok, Prod.mk.injEq] at hok
    obtain ⟨-, rfl, rfl⟩ := hok
    have hold := List.mem_of_find?_eq_some hfind
    have hsubject : IsSubject verifiedIssuer subjectLookupHash old := by
      simpa using List.find?_some hfind
    exact ⟨hvalid.modify rfl (fun _ => ⟨rfl, rfl⟩) fun _ h => ⟨h, rfl⟩,
      KeepsLinks.modify rfl (fun _ => ⟨rfl, rfl⟩) fun _ _ _ _ => ⟨rfl, rfl⟩,
      Table.mem_modify_of hold hsubject, hsubject, rfl⟩
  · rename_i hfind
    simp only [bind_eq_ok, Table.insert_eq_ok, pure_eq_ok, Prod.mk.injEq] at hok
    obtain ⟨inserted, ⟨-, hinsert⟩, rfl, rfl⟩ := hok
    have hmem : ∀ row, row ∈ inserted ↔ row ∈ db.externalIdentity ∨
        row = newIdentity id verifiedIssuer subjectLookupHash time := by
      intro row
      rw [Table.mem_def, hinsert, List.mem_append, List.mem_singleton]
      rfl
    have hfresh : ∀ row ∈ db.externalIdentity, ¬ IsSubject verifiedIssuer subjectLookupHash row := by
      intro row hrow
      simpa using List.find?_eq_none.mp hfind row hrow
    refine ⟨⟨fun a ha b hb hissuer hhash => ?_, fun row hrow hprovisioning => ?_⟩, ?_,
      (hmem _).mpr (.inr rfl), ⟨rfl, rfl⟩, rfl⟩
    · rcases (hmem a).mp ha with ha | rfl
      · rcases (hmem b).mp hb with hb | rfl
        · exact hvalid.one a ha b hb hissuer hhash
        · exact absurd ⟨hissuer, hhash⟩ (hfresh a ha)
      · rcases (hmem b).mp hb with hb | rfl
        · exact absurd ⟨hissuer.symm, hhash.symm⟩ (hfresh b hb)
        · rfl
    · rcases (hmem row).mp hrow with hrow | rfl
      · exact hvalid.unlinked row hrow hprovisioning
      · rfl
    · intro id playerId issuer hash row hrow
      exact ⟨row, (hmem row).mpr (.inl hrow.mem), hrow.id_eq, hrow.subject, hrow.linked, hrow.enabled⟩

/-- `upsertGoogleIdentity`: a record with a player is a linked identity, unless it is disabled. -/
theorem upsertGoogleIdentity_spec {id : Uuid} {verifiedIssuer subjectLookupHash : String}
    {time : Timestamp} {db db' : IdentityDb} {result : Except Provisioning.Failure ExternalIdentityRecord}
    (hvalid : ValidIdentities db)
    (hok : upsertGoogleIdentity id verifiedIssuer subjectLookupHash time db = .ok (result, db')) :
    ValidIdentities db' ∧ KeepsLinks db db' ∧ db'.hiveLoginChallenge = db.hiveLoginChallenge ∧
      ∀ record player, result = .ok record → record.player = some player →
        record.status ≠ .disabled →
          ∃ row, LinkedTo db' record.id player.id verifiedIssuer subjectLookupHash row := by
  simp only [upsertGoogleIdentity, bind_eq_ok, pure_eq_ok, Prod.exists, Prod.mk.injEq] at hok
  obtain ⟨row, db'', hupsert, rfl, rfl⟩ := hok
  obtain ⟨hvalid', hkeeps, hrow, hsubject, hchallenges⟩ := upsertIdentity_spec hvalid hupsert
  refine ⟨hvalid', hkeeps, hchallenges, fun record player hrecord hplayer hstatus => ?_⟩
  unfold identityRecord at hrecord
  cases hlink : row.playerId with
  | none =>
    rw [hlink] at hrecord
    obtain rfl := Except.ok.inj hrecord
    cases hplayer
  | some playerId =>
    rw [hlink] at hrecord
    dsimp only at hrecord
    cases hfind : db.player.rows.find? fun player => player.id = playerId with
    | none =>
      rw [hfind] at hrecord
      cases hrecord
    | some found =>
      rw [hfind] at hrecord
      obtain rfl := Except.ok.inj hrecord
      obtain rfl := Option.some.inj hplayer
      have hid : found.id = playerId := by simpa using List.find?_some hfind
      refine ⟨row, hrow, rfl, hsubject, ?_, fun hdisabled => hstatus ?_⟩
      · rw [hlink, ← hid]
        rfl
      · show mapStatus row.status = .disabled
        rw [hdisabled]
        rfl

theorem otherWrite_spec {change : OtherWrite} {db db' : IdentityDb} (hvalid : ValidIdentities db)
    (hok : change.apply db = some db') :
    ValidIdentities db' ∧ KeepsLinks db db' ∧ db'.hiveLoginChallenge = db.hiveLoginChallenge := by
  cases change with
  | elsewhere provisioning custodyKey disclosureAcknowledgment rcDelegation disclosures =>
    obtain rfl := Option.some.inj hok
    exact ⟨hvalid.of_eq rfl, keepsLinks_of_eq rfl, rfl⟩
  | markReady playerId provisioningId time =>
    dsimp only [OtherWrite.apply] at hok
    split at hok
    swap
    · cases hok
    rename_i tables hready
    obtain rfl := Option.some.inj hok
    unfold Provisioning.markReady at hready
    split at hready
    · cases hready
    rename_i job hjob
    by_cases hstate : job.state = .ready
    · rw [if_pos hstate] at hready
      obtain rfl := Except.ok.inj hready
      exact ⟨hvalid, keepsLinks_of_eq rfl, rfl⟩
    · rw [if_neg hstate] at hready
      obtain ⟨player, -, -, link, -, -, hlink, -, -, hidentities⟩ :=
        Provisioning.finalize_eq_ok hready
      refine ⟨hvalid.modify hidentities (fun row => (hlink row).2.2) fun row hstatus => ?_,
        KeepsLinks.modify hidentities (fun row => (hlink row).2.2) fun row hrow hp hplayer =>
          absurd (hvalid.unlinked row hrow hp.2) hplayer, rfl⟩
      rw [(hlink row).2.1] at hstatus
      cases hstatus

/-! ### Challenges -/

/-- `createHiveChallenge` inserts one challenge. -/
theorem createHiveChallenge_spec {sha256 : String → String} {row : HiveLoginChallengeRow}
    {db db' : IdentityDb} (hok : createHiveChallenge sha256 row db = .ok db') :
    db'.externalIdentity = db.externalIdentity ∧
      ∀ other, other ∈ db'.hiveLoginChallenge ↔ other ∈ db.hiveLoginChallenge ∨ other = row := by
  simp only [createHiveChallenge, bind_eq_ok, exists_unit, Table.insert_eq_ok, pure_eq_ok] at hok
  obtain ⟨-, -, inserted, ⟨-, hinsert⟩, rfl⟩ := hok
  refine ⟨rfl, fun other => ?_⟩
  show other ∈ inserted ↔ _
  rw [Table.mem_def, hinsert, List.mem_append, List.mem_singleton]
  rfl

/-- `consumeHiveChallenge`: it finds a challenge that can be consumed, and consumes it. -/
theorem consumeHiveChallenge_spec {sha256 : String → String} {challengeId : Uuid}
    {hiveUsername : String} {consumedAt : Timestamp} {db db' : IdentityDb}
    {result : Option HiveLoginChallengeRecord}
    (hok : consumeHiveChallenge sha256 challengeId hiveUsername consumedAt db = .ok (result, db')) :
    db'.externalIdentity = db.externalIdentity ∧
      (∀ row ∈ db'.hiveLoginChallenge, row.consumedAt = none → row ∈ db.hiveLoginChallenge) ∧
      (∀ row ∈ db.hiveLoginChallenge, row.consumedAt ≠ none → row ∈ db'.hiveLoginChallenge) ∧
      ∀ challenge, result = some challenge → ∃ row ∈ db.hiveLoginChallenge,
        Consumable challengeId hiveUsername consumedAt row ∧ mapChallenge row = challenge ∧
          consumed consumedAt row ∈ db'.hiveLoginChallenge := by
  simp only [consumeHiveChallenge, bind_eq_ok, pure_eq_ok, Prod.mk.injEq] at hok
  obtain ⟨table, hupdate, rfl, rfl⟩ := hok
  obtain ⟨-, rfl⟩ := Table.update_eq_ok.mp hupdate
  refine ⟨rfl, fun row hrow hnone => ?_, fun row hrow hsome => ?_, fun challenge hfound => ?_⟩
  · rcases Table.mem_modify_cases hrow with ⟨old, -, -, rfl⟩ | ⟨hrow, -⟩
    · cases hnone
    · exact hrow
  · exact Table.mem_modify_of_not hrow fun hconsumable => hsome hconsumable.2.2.1
  · obtain ⟨row, hfind, hmap⟩ := Option.map_eq_some_iff.mp hfound
    have hrow := List.mem_of_find?_eq_some hfind
    have hconsumable : Consumable challengeId hiveUsername consumedAt row := by
      simpa using List.find?_some hfind
    exact ⟨row, hrow, hconsumable, hmap, Table.mem_modify_of hrow hconsumable⟩

/-- `findOrCreateDirectHivePlayer`: the player of the username. -/
theorem findOrCreateDirectHivePlayer_spec {id : Uuid} {hiveUsername : String} {db db' : IdentityDb}
    {player : PlayerIdentity}
    (hok : findOrCreateDirectHivePlayer id hiveUsername db = .ok (player, db')) :
    player.hiveUsername = hiveUsername ∧ db'.externalIdentity = db.externalIdentity ∧
      db'.hiveLoginChallenge = db.hiveLoginChallenge := by
  unfold findOrCreateDirectHivePlayer at hok
  split at hok
  · rename_i found hfind
    obtain ⟨rfl, rfl⟩ := Prod.mk.inj (Except.ok.inj hok)
    exact ⟨(Table.find?_eq_some.mp hfind).2, rfl, rfl⟩
  · simp only [bind_eq_ok, exists_unit, pure_eq_ok, Prod.mk.injEq] at hok
    obtain ⟨-, -, -, inserted, -, rfl, rfl⟩ := hok
    exact ⟨rfl, rfl, rfl⟩

theorem verify_accepts {cfg : LoginConfig} {challenge hiveUsername signature : String}
    {answers : List AccountAnswer}
    (h : (verify cfg challenge hiveUsername signature).feed answers = .ret true) :
    ∃ recoveredKey, recoverSigner cfg challenge signature = some recoveredKey ∧
      (keyCanSatisfyPostingAuthority recoveredKey 3 [] hiveUsername).feed answers = .ret true := by
  unfold verify at h
  cases hsigner : recoverSigner cfg challenge signature with
  | none =>
    rw [hsigner] at h
    cases Prog.ret.inj h
  | some recoveredKey =>
    rw [hsigner] at h
    exact ⟨recoveredKey, rfl, h⟩

/-! ### The challenges of a run -/

section Challenges

variable {ι : Type}

/-- What the challenges say about the run. -/
structure ChallengeInv (cfg : LoginConfig) (db : IdentityDb) (ts : List (LoginTransition ι))
    (S : LoginSystem ι) : Prop where
  issued : ∀ row ∈ S.identity.hiveLoginChallenge, row.consumedAt = none → Issued cfg db ts row
  spent : ∀ id ∈ ts.filterMap consumedIn, ∃ row ∈ S.identity.hiveLoginChallenge,
    row.id = id ∧ row.consumedAt ≠ none
  consumed_once : (ts.filterMap consumedIn).Nodup
  used_consumed : ∀ id ∈ ts.filterMap usedIn, id ∈ ts.filterMap consumedIn
  used_once : (ts.filterMap usedIn).Nodup
  held : ∀ i, ∀ id ∈ (S.attempts i).challengeId,
    id ∈ ts.filterMap consumedIn ∧ id ∉ ts.filterMap usedIn
  apart : ∀ i j, ∀ id ∈ (S.attempts i).challengeId, id ∈ (S.attempts j).challengeId → i = j

variable {cfg : LoginConfig} {db : IdentityDb} {ts : List (LoginTransition ι)}
variable {t : LoginTransition ι} {S S' : LoginSystem ι}

theorem ChallengeInv.snoc (h : ChallengeInv cfg db ts S) (hconsumed : consumedIn t = none)
    (hused : usedIn t = none)
    (hissued : ∀ row ∈ S'.identity.hiveLoginChallenge, row.consumedAt = none →
      row ∈ S.identity.hiveLoginChallenge ∨ Issued cfg db (ts ++ [t]) row)
    (hspent : ∀ row ∈ S.identity.hiveLoginChallenge, row.consumedAt ≠ none →
      row ∈ S'.identity.hiveLoginChallenge)
    (hheld : ∀ i, ∀ id ∈ (S'.attempts i).challengeId, id ∈ (S.attempts i).challengeId) :
    ChallengeInv cfg db (ts ++ [t]) S' := by
  have hconsumed' : (ts ++ [t]).filterMap consumedIn = ts.filterMap consumedIn := by
    rw [List.filterMap_append, List.filterMap_cons_none hconsumed, List.filterMap_nil,
      List.append_nil]
  have hused' : (ts ++ [t]).filterMap usedIn = ts.filterMap usedIn := by
    rw [List.filterMap_append, List.filterMap_cons_none hused, List.filterMap_nil, List.append_nil]
  refine ⟨fun row hrow hnone => ?_, ?_, ?_, ?_, ?_, fun i id hid => ?_, fun i j id hi hj => ?_⟩
  · rcases hissued row hrow hnone with hrow | hrow
    · exact (h.issued row hrow hnone).mono (List.subset_append_left _ _)
    · exact hrow
  · rw [hconsumed']
    intro id hid
    obtain ⟨row, hrow, hrowid, hsome⟩ := h.spent id hid
    exact ⟨row, hspent row hrow hsome, hrowid, hsome⟩
  · rw [hconsumed']
    exact h.consumed_once
  · rw [hconsumed', hused']
    exact h.used_consumed
  · rw [hused']
    exact h.used_once
  · rw [hconsumed', hused']
    exact h.held i id (hheld i id hid)
  · exact h.apart i j id (hheld i id hi) (hheld j id hj)

variable [DecidableEq ι]

/-- A step that consumes the challenge of `row` for connection `i`. -/
theorem ChallengeInv.consume (h : ChallengeInv cfg db ts S) {i : ι} {row : HiveLoginChallengeRow}
    {attempt : Attempt} {consumedAt : Timestamp}
    (hconsumed : consumedIn t = some row.id) (hused : usedIn t = none)
    (hrow : row ∈ S.identity.hiveLoginChallenge) (hopen : row.consumedAt = none)
    (hissued : ∀ other ∈ S'.identity.hiveLoginChallenge, other.consumedAt = none →
      other ∈ S.identity.hiveLoginChallenge)
    (hspent : ∀ other ∈ S.identity.hiveLoginChallenge, other.consumedAt ≠ none →
      other ∈ S'.identity.hiveLoginChallenge)
    (hin : consumed consumedAt row ∈ S'.identity.hiveLoginChallenge)
    (hattempts : S'.attempts = Function.update S.attempts i attempt)
    (hid : attempt.challengeId = some row.id) : ChallengeInv cfg db (ts ++ [t]) S' := by
  have hconsumed' : (ts ++ [t]).filterMap consumedIn = ts.filterMap consumedIn ++ [row.id] := by
    rw [List.filterMap_append, List.filterMap_cons_some hconsumed, List.filterMap_nil]
  have hused' : (ts ++ [t]).filterMap usedIn = ts.filterMap usedIn := by
    rw [List.filterMap_append, List.filterMap_cons_none hused, List.filterMap_nil, List.append_nil]
  have hfresh : row.id ∉ ts.filterMap consumedIn := by
    intro hin
    obtain ⟨row', hrow', hid', hsome⟩ := h.spent row.id hin
    rw [Table.eq_of_key hrow' hrow hid'] at hsome
    exact hsome hopen
  have hheld : ∀ j, ∀ id ∈ (S'.attempts j).challengeId, (j = i ∧ id = row.id) ∨
      (j ≠ i ∧ id ∈ (S.attempts j).challengeId) := by
    intro j id hj
    rw [hattempts] at hj
    by_cases hji : j = i
    · subst hji
      rw [Function.update_self, hid] at hj
      exact .inl ⟨rfl, (Option.some.inj hj).symm⟩
    · rw [Function.update_of_ne hji] at hj
      exact .inr ⟨hji, hj⟩
  refine ⟨fun other hother hnone => ?_, fun id hin' => ?_, ?_, fun id hin' => ?_, ?_,
    fun j id hj => ?_, fun j k id hj hk => ?_⟩
  · exact (h.issued other (hissued other hother hnone) hnone).mono (List.subset_append_left _ _)
  · rw [hconsumed'] at hin'
    rcases List.mem_append.mp hin' with hin' | hin'
    · obtain ⟨other, hother, hid', hsome⟩ := h.spent id hin'
      exact ⟨other, hspent other hother hsome, hid', hsome⟩
    · obtain rfl := List.mem_singleton.mp hin'
      exact ⟨_, hin, rfl, Option.some_ne_none _⟩
  · rw [hconsumed']
    exact List.nodup_append_comm.mp (List.nodup_cons.mpr ⟨hfresh, h.consumed_once⟩)
  · rw [hused'] at hin'
    rw [hconsumed']
    exact List.mem_append_left _ (h.used_consumed id hin')
  · rw [hused']
    exact h.used_once
  · rw [hconsumed', hused']
    rcases hheld j id hj with ⟨-, rfl⟩ | ⟨-, hj⟩
    · exact ⟨List.mem_append_right _ (List.mem_singleton_self _),
        fun hin' => hfresh (h.used_consumed _ hin')⟩
    · exact ⟨List.mem_append_left _ (h.held j id hj).1, (h.held j id hj).2⟩
  · rcases hheld j id hj with ⟨rfl, rfl⟩ | ⟨-, hj⟩
    · rcases hheld k _ hk with ⟨rfl, -⟩ | ⟨-, hk⟩
      · rfl
      · exact absurd (h.held k _ hk).1 hfresh
    · rcases hheld k id hk with ⟨-, rfl⟩ | ⟨-, hk⟩
      · exact absurd (h.held j _ hj).1 hfresh
      · exact h.apart j k id hj hk

/-- A commit of the login on connection `i` uses its challenge. -/
theorem ChallengeInv.use (h : ChallengeInv cfg db ts S) {i : ι} {id : Uuid}
    (hconsumed : consumedIn t = none) (hused : usedIn t = some id)
    (hid : (S.attempts i).challengeId = some id) (hdb : S'.identity = S.identity)
    (hattempts : S'.attempts = Function.update S.attempts i .idle) :
    ChallengeInv cfg db (ts ++ [t]) S' := by
  have hconsumed' : (ts ++ [t]).filterMap consumedIn = ts.filterMap consumedIn := by
    rw [List.filterMap_append, List.filterMap_cons_none hconsumed, List.filterMap_nil,
      List.append_nil]
  have hused' : (ts ++ [t]).filterMap usedIn = ts.filterMap usedIn ++ [id] := by
    rw [List.filterMap_append, List.filterMap_cons_some hused, List.filterMap_nil]
  have hheld : ∀ j, ∀ id' ∈ (S'.attempts j).challengeId,
      j ≠ i ∧ id' ∈ (S.attempts j).challengeId := by
    intro j id' hj
    rw [hattempts] at hj
    by_cases hji : j = i
    · subst hji
      rw [Function.update_self] at hj
      cases hj
    · rw [Function.update_of_ne hji] at hj
      exact ⟨hji, hj⟩
  obtain ⟨hin, hout⟩ := h.held i id hid
  refine ⟨fun row hrow hnone => ?_, ?_, ?_, fun id' hin' => ?_, ?_, fun j id' hj => ?_,
    fun j k id' hj hk => ?_⟩
  · rw [hdb] at hrow
    exact (h.issued row hrow hnone).mono (List.subset_append_left _ _)
  · rw [hconsumed', hdb]
    exact h.spent
  · rw [hconsumed']
    exact h.consumed_once
  · rw [hused'] at hin'
    rw [hconsumed']
    rcases List.mem_append.mp hin' with hin' | hin'
    · exact h.used_consumed id' hin'
    · obtain rfl := List.mem_singleton.mp hin'
      exact hin
  · rw [hused']
    exact List.nodup_append_comm.mp (List.nodup_cons.mpr ⟨hout, h.used_once⟩)
  · obtain ⟨hji, hj⟩ := hheld j id' hj
    rw [hconsumed', hused']
    refine ⟨(h.held j id' hj).1, fun hin' => ?_⟩
    rcases List.mem_append.mp hin' with hin' | hin'
    · exact (h.held j id' hj).2 hin'
    · obtain rfl := List.mem_singleton.mp hin'
      exact hji (h.apart j i id' hj hid)
  · exact h.apart j k id' (hheld j id' hj).2 (hheld k id' hk).2

end Challenges

/-! ### The invariant -/

section Invariant

variable {ι : Type} [DecidableEq ι]

/-- What the stage of a login rests on. -/
def Justified (cfg : LoginConfig) (db : IdentityDb) (ts : List (LoginTransition ι))
    (current : IdentityDb) (i : ι) : Attempt → Prop
  | .idle => True
  | .consuming _ => True
  | .verifying login challenge answers => ∃ row us t vs,
    mapChallenge row = challenge ∧ Consumption cfg db ts i login row answers us t vs
  | .hivePlayer login challenge answers player => player.hiveUsername = login.hiveUsername ∧
    (verify cfg challenge.challenge login.hiveUsername login.signature).feed answers = .ret true ∧
    ∃ row us t vs, mapChallenge row = challenge ∧ Consumption cfg db ts i login row answers us t vs
  | .exchanging _ => True
  | .identifying _ identity => ∃ t ∈ ts, t.label = .exchanged i identity
  | .identified _ identity record => (∃ t ∈ ts, t.label = .exchanged i identity) ∧
    ∀ player, record.player = some player → record.status ≠ .disabled →
      ∃ row, LinkedTo current record.id player.id identity.issuer (cfg.subjectLookupHash identity) row

/-- The invariant of logins. -/
structure LoginInv (cfg : LoginConfig) (db : IdentityDb) (table : SessionTable)
    (ts : List (LoginTransition ι)) (S : LoginSystem ι) : Prop where
  challenges : ChallengeInv cfg db ts S
  identities : ValidIdentities S.identity
  attempts : ∀ i, Justified cfg db ts S.identity i (S.attempts i)
  requests : ∀ i session phase, S.auth.requests i = some (.createSession session, phase) →
    ∃ draw call, (S.attempts i).call draw = some call ∧
      call.request cfg.auth = some (.createSession session)
  accounted : ∀ row ∈ S.auth.authSession, Accounted table ts row

variable {cfg : LoginConfig} {db : IdentityDb} {table : SessionTable}
variable {ts : List (LoginTransition ι)} {t : LoginTransition ι} {S S' : LoginSystem ι}

theorem Consumption.snoc {i : ι} {login : HiveLogin} {row : HiveLoginChallengeRow}
    {answers : List AccountAnswer} {us vs : List (LoginTransition ι)} {c : LoginTransition ι}
    (h : Consumption cfg db ts i login row answers us c vs) (t : LoginTransition ι) :
    Consumption cfg db (ts ++ [t]) i login row (answers ++ (fetchedIn i t).toList) us c
      (vs ++ [t]) where
  split := by rw [h.split, List.append_assoc, List.cons_append]
  label := h.label
  row_mem := h.row_mem
  consumable := h.consumable
  consumed := h.consumed
  issued := h.issued
  answers := by
    rw [List.filterMap_append, h.answers]
    cases hfetched : fetchedIn i t <;> simp [hfetched]

theorem Justified.snoc {current current' : IdentityDb} {i : ι} {attempt : Attempt}
    (h : Justified cfg db ts current i attempt) (hkeeps : KeepsLinks current current')
    (hnone : fetchedIn i t = none) : Justified cfg db (ts ++ [t]) current' i attempt := by
  have hanswers : ∀ answers : List AccountAnswer, answers ++ (fetchedIn i t).toList = answers := by
    intro answers
    rw [hnone]
    exact List.append_nil answers
  have hverified : ∀ identity, (∃ t ∈ ts, t.label = .exchanged i identity) →
      ∃ t' ∈ ts ++ [t], t'.label = .exchanged i identity := by
    rintro identity ⟨t', ht', hlabel⟩
    exact ⟨t', List.mem_append_left _ ht', hlabel⟩
  cases attempt with
  | idle => trivial
  | consuming login => trivial
  | exchanging login => trivial
  | verifying login challenge answers =>
    obtain ⟨row, us, c, vs, hmap, hconsumption⟩ := h
    have hsnoc := hconsumption.snoc t
    rw [hanswers] at hsnoc
    exact ⟨row, us, c, _, hmap, hsnoc⟩
  | hivePlayer login challenge answers player =>
    obtain ⟨husername, hverify, row, us, c, vs, hmap, hconsumption⟩ := h
    have hsnoc := hconsumption.snoc t
    rw [hanswers] at hsnoc
    exact ⟨husername, hverify, row, us, c, _, hmap, hsnoc⟩
  | identifying login identity => exact hverified identity h
  | identified login identity record =>
    refine ⟨hverified identity h.1, fun player hplayer hstatus => ?_⟩
    obtain ⟨row, hrow⟩ := h.2 player hplayer hstatus
    exact hkeeps _ _ _ _ row hrow

/-- The login on connection `i` gets to a stage from which it has not called the repository. -/
theorem LoginInv.move {i : ι} {attempt : Attempt} {db' : IdentityDb}
    (h : LoginInv cfg db table ts S) (hcall : ∀ draw, (S.attempts i).call draw = none)
    (hchallenges : ChallengeInv cfg db (ts ++ [t]) (S.wrote i db' attempt))
    (hvalid : ValidIdentities db') (hkeeps : KeepsLinks S.identity db')
    (hothers : ∀ j, j ≠ i → fetchedIn j t = none)
    (hjustified : Justified cfg db (ts ++ [t]) db' i attempt) :
    LoginInv cfg db table (ts ++ [t]) (S.wrote i db' attempt) := by
  refine ⟨hchallenges, hvalid, fun j => ?_, fun j session phase hj => ?_, fun row hrow => ?_⟩
  · rw [LoginSystem.wrote_attempts, LoginSystem.wrote_identity]
    by_cases hji : j = i
    · subst hji
      rw [Function.update_self]
      exact hjustified
    · rw [Function.update_of_ne hji]
      exact (h.attempts j).snoc hkeeps (hothers j hji)
  · rw [LoginSystem.wrote_attempts]
    obtain ⟨draw, call, hattempt, hrequest⟩ := h.requests j session phase hj
    by_cases hji : j = i
    · subst hji
      rw [hcall] at hattempt
      cases hattempt
    · rw [Function.update_of_ne hji]
      exact ⟨draw, call, hattempt, hrequest⟩
  · exact (h.accounted row hrow).mono (List.subset_append_left _ _)

theorem LoginInv.moveOn {i : ι} {attempt : Attempt} {db' : IdentityDb}
    (h : LoginInv cfg db table ts S) (hcall : ∀ draw, (S.attempts i).call draw = none)
    (hconsumed : consumedIn t = none) (hused : usedIn t = none)
    (hdb : db'.hiveLoginChallenge = S.identity.hiveLoginChallenge)
    (hheld : ∀ id ∈ attempt.challengeId, id ∈ (S.attempts i).challengeId)
    (hvalid : ValidIdentities db') (hkeeps : KeepsLinks S.identity db')
    (hothers : ∀ j, j ≠ i → fetchedIn j t = none)
    (hjustified : Justified cfg db (ts ++ [t]) db' i attempt) :
    LoginInv cfg db table (ts ++ [t]) (S.wrote i db' attempt) := by
  refine h.move hcall (h.challenges.snoc hconsumed hused (fun row hrow _ => .inl ?_)
    (fun row hrow _ => ?_) fun j id hj => ?_) hvalid hkeeps hothers hjustified
  · rw [LoginSystem.wrote_identity, hdb] at hrow
    exact hrow
  · rw [LoginSystem.wrote_identity, hdb]
    exact hrow
  · rw [LoginSystem.wrote_attempts] at hj
    by_cases hji : j = i
    · subst hji
      rw [Function.update_self] at hj
      exact hheld id hj
    · rw [Function.update_of_ne hji] at hj
      exact hj

theorem LoginInv.tables {db' : IdentityDb} {auth : AuthSystem ι} (h : LoginInv cfg db table ts S)
    (hconsumed : consumedIn t = none) (hused : usedIn t = none)
    (hanswers : ∀ j, fetchedIn j t = none)
    (hissued : ∀ row ∈ db'.hiveLoginChallenge, row.consumedAt = none →
      row ∈ S.identity.hiveLoginChallenge ∨ Issued cfg db (ts ++ [t]) row)
    (hspent : ∀ row ∈ S.identity.hiveLoginChallenge, row ∈ db'.hiveLoginChallenge)
    (hvalid : ValidIdentities db') (hkeeps : KeepsLinks S.identity db')
    (hrequests : ∀ i session phase, auth.requests i = some (.createSession session, phase) →
      ∃ draw call, (S.attempts i).call draw = some call ∧
        call.request cfg.auth = some (.createSession session))
    (hrows : auth.authSession = S.auth.authSession) :
    LoginInv cfg db table (ts ++ [t]) ⟨db', auth, S.attempts⟩ := by
  refine ⟨h.challenges.snoc hconsumed hused hissued (fun row hrow _ => hspent row hrow)
    fun _ _ hid => hid, hvalid, fun j => (h.attempts j).snoc hkeeps (hanswers j), hrequests,
    fun row hrow => ?_⟩
  rw [hrows] at hrow
  exact (h.accounted row hrow).mono (List.subset_append_left _ _)

/-- The transaction of connection `i` ends, and its login with it. -/
theorem LoginInv.finish {i : ι} {table' : SessionTable} (h : LoginInv cfg db table ts S)
    (hanswers : ∀ j, fetchedIn j t = none)
    (hchallenges : ChallengeInv cfg db (ts ++ [t])
      { S.moved i .idle with auth := S.auth.finish i table' })
    (haccounted : ∀ row ∈ table', Accounted table (ts ++ [t]) row) :
    LoginInv cfg db table (ts ++ [t]) { S.moved i .idle with auth := S.auth.finish i table' } := by
  refine ⟨hchallenges, h.identities, fun j => ?_, fun j session phase hj => ?_, haccounted⟩
  · show Justified cfg db (ts ++ [t]) S.identity j (Function.update S.attempts i .idle j)
    by_cases hji : j = i
    · subst hji
      rw [Function.update_self]
      trivial
    · rw [Function.update_of_ne hji]
      exact (h.attempts j).snoc (keepsLinks_of_eq rfl) (hanswers j)
  · obtain ⟨hji, hj⟩ := mem_finish (S := S.auth) (i := i) (e := (.createSession session, phase)) hj
    show ∃ draw call, (Function.update S.attempts i .idle j).call draw = some call ∧ _
    rw [Function.update_of_ne hji]
    exact h.requests j session phase hj

/-- The login on connection `i` gives up the challenge that it holds, if any. -/
theorem LoginInv.drop {i : ι} {auth : AuthSystem ι} (h : LoginInv cfg db table ts S)
    (hconsumed : consumedIn t = none) (hused : usedIn t = none) :
    ChallengeInv cfg db (ts ++ [t]) { S.moved i .idle with auth := auth } := by
  refine h.challenges.snoc hconsumed hused (fun _ hrow _ => .inl hrow) (fun _ hrow _ => hrow)
    fun j id hj => ?_
  have hj : id ∈ (Function.update S.attempts i .idle j).challengeId := hj
  by_cases hji : j = i
  · subst hji
    rw [Function.update_self] at hj
    cases hj
  · rw [Function.update_of_ne hji] at hj
    exact hj

end Invariant

/-! ### Steps -/

section Steps

variable {ι : Type} [DecidableEq ι] {cfg : LoginConfig} {db : IdentityDb} {table : SessionTable}
variable {ts : List (LoginTransition ι)} {S S' : LoginSystem ι}

theorem loginInv_consume {i : ι} {login : HiveLogin} (h : LoginInv cfg db table ts S)
    (hattempt : S.attempts i = .consuming login) :
    LoginInv cfg db table (ts ++ [⟨S, .consume i, consumeStep cfg S i login⟩])
      (consumeStep cfg S i login) := by
  have hcall : ∀ draw, (S.attempts i).call draw = none := by
    intro draw
    rw [hattempt]
    rfl
  have hnone : ∀ S' : LoginSystem ι, S'.attempts i = .idle →
      consumedIn (⟨S, .consume i, S'⟩ : LoginTransition ι) = none := by
    intro S' hidle
    show (S'.attempts i).challengeId = none
    rw [hidle]
    rfl
  unfold consumeStep
  split
  · rename_i challenge db' hconsume
    obtain ⟨hidentities, hissued, hspent, hfound⟩ := consumeHiveChallenge_spec hconsume
    obtain ⟨row, hrow, hconsumable, rfl, hin⟩ := hfound challenge rfl
    have hconsumed : consumedIn (⟨S, .consume i, S.wrote i db'
        (.verifying login (mapChallenge row) [])⟩ : LoginTransition ι) = some row.id := by
      show (Function.update S.attempts i _ i).challengeId = some row.id
      rw [Function.update_self]
      rfl
    refine h.move hcall (h.challenges.consume hconsumed rfl hrow hconsumable.2.2.1 hissued hspent hin
      rfl rfl) (h.identities.of_eq hidentities) (keepsLinks_of_eq hidentities) (fun _ _ => rfl)
      ⟨row, ts, _, [], rfl, rfl, rfl, hrow, hconsumable, hconsumed,
        h.challenges.issued row hrow hconsumable.2.2.1, rfl⟩
  · rename_i db' hconsume
    obtain ⟨hidentities, hissued, hspent, -⟩ := consumeHiveChallenge_spec hconsume
    have hidle : (S.wrote i db' .idle).attempts i = .idle := Function.update_self ..
    refine h.move hcall (h.challenges.snoc (hnone _ hidle) rfl (fun row hrow hnone => .inl ?_) hspent
      fun j id hj => ?_) (h.identities.of_eq hidentities) (keepsLinks_of_eq hidentities)
      (fun _ _ => rfl) trivial
    · exact hissued row hrow hnone
    · rw [LoginSystem.wrote_attempts] at hj
      by_cases hji : j = i
      · subst hji
        rw [Function.update_self] at hj
        cases hj
      · rw [Function.update_of_ne hji] at hj
        exact hj
  · have hidle : (S.moved i .idle).attempts i = .idle := Function.update_self ..
    exact h.moveOn hcall (hnone _ hidle) rfl rfl (fun _ hid => by cases hid) h.identities
      (keepsLinks_of_eq rfl) (fun _ _ => rfl) trivial

theorem loginInv_fetched {i : ι} {login : HiveLogin} {challenge : HiveLoginChallengeRecord}
    {answers : List AccountAnswer} {answer : AccountAnswer} (h : LoginInv cfg db table ts S)
    (hattempt : S.attempts i = .verifying login challenge answers)
    (hok : fetchedStep cfg S i login challenge answers answer = some S') :
    LoginInv cfg db table (ts ++ [⟨S, .fetched i answer, S'⟩]) S' := by
  have hS' : S' = S.moved i (.verifying login challenge (answers ++ [answer])) := by
    unfold fetchedStep at hok
    split at hok
    · exact (Option.some.inj hok).symm
    · cases hok
    · cases hok
  subst hS'
  have hjustified := h.attempts i
  rw [hattempt] at hjustified
  obtain ⟨row, us, c, vs, hmap, hconsumption⟩ := hjustified
  have hsnoc := hconsumption.snoc ⟨S, .fetched i answer,
    S.moved i (.verifying login challenge (answers ++ [answer]))⟩
  have hanswer : fetchedIn i (⟨S, .fetched i answer,
      S.moved i (.verifying login challenge (answers ++ [answer]))⟩ : LoginTransition ι) =
        some answer := if_pos rfl
  rw [hanswer] at hsnoc
  refine h.moveOn (fun draw => ?_) rfl rfl rfl (fun id hid => ?_) h.identities (keepsLinks_of_eq rfl)
    (fun j hji => if_neg (Ne.symm hji)) ⟨row, us, c, _, hmap, hsnoc⟩
  · rw [hattempt]
    rfl
  · rw [hattempt]
    exact hid

theorem loginInv_findOrCreate {i : ι} {login : HiveLogin} {challenge : HiveLoginChallengeRecord}
    {answers : List AccountAnswer} {playerId : Uuid} (h : LoginInv cfg db table ts S)
    (hattempt : S.attempts i = .verifying login challenge answers)
    (hok : findOrCreateStep cfg S i login challenge answers playerId = some S') :
    LoginInv cfg db table (ts ++ [⟨S, .findOrCreatePlayer i playerId, S'⟩]) S' := by
  unfold findOrCreateStep at hok
  split at hok
  · rename_i hverify
    split at hok
    · rename_i player db' hplayer
      obtain rfl := Option.some.inj hok
      obtain ⟨husername, hidentities, hchallenges⟩ := findOrCreateDirectHivePlayer_spec hplayer
      have hjustified := h.attempts i
      rw [hattempt] at hjustified
      have hsnoc : Justified cfg db (ts ++ [⟨S, .findOrCreatePlayer i playerId,
          S.wrote i db' (.hivePlayer login challenge answers player)⟩]) S.identity i
            (.verifying login challenge answers) :=
        hjustified.snoc (keepsLinks_of_eq rfl) rfl
      refine h.moveOn (fun draw => ?_) rfl rfl hchallenges (fun id hid => ?_)
        (h.identities.of_eq hidentities) (keepsLinks_of_eq hidentities) (fun _ _ => rfl)
        ⟨husername, hverify, hsnoc⟩
      · rw [hattempt]
        rfl
      · rw [hattempt]
        exact hid
    · cases hok
  · cases hok
  · cases hok
  · cases hok

theorem loginInv_upsert {i : ι} {login : GoogleLogin} {identity : Provisioning.GoogleIdentity}
    {id : Uuid} (h : LoginInv cfg db table ts S) (hattempt : S.attempts i = .identifying login identity)
    (hok : upsertStep cfg S i login identity id = some S') :
    LoginInv cfg db table (ts ++ [⟨S, .upsertIdentity i id, S'⟩]) S' := by
  have hcall : ∀ draw, (S.attempts i).call draw = none := by
    intro draw
    rw [hattempt]
    rfl
  unfold upsertStep at hok
  split at hok
  · rename_i record db' hupsert
    obtain rfl := Option.some.inj hok
    obtain ⟨hvalid, hkeeps, hchallenges, hlinked⟩ := upsertGoogleIdentity_spec h.identities hupsert
    have hjustified := h.attempts i
    rw [hattempt] at hjustified
    obtain ⟨t', ht', hlabel⟩ := hjustified
    exact h.moveOn hcall rfl rfl hchallenges (fun _ hid => by cases hid) hvalid hkeeps (fun _ _ => rfl)
      ⟨⟨t', List.mem_append_left _ ht', hlabel⟩, fun player hplayer hstatus =>
        hlinked record player rfl hplayer hstatus⟩
  · rename_i cause db' hupsert
    obtain rfl := Option.some.inj hok
    obtain ⟨hvalid, hkeeps, hchallenges, -⟩ := upsertGoogleIdentity_spec h.identities hupsert
    exact h.moveOn hcall rfl rfl hchallenges (fun _ hid => by cases hid) hvalid hkeeps (fun _ _ => rfl)
      trivial
  · cases hok

theorem accounted_commit {i : ι} {request : SessionRequest} {rows : List Uuid}
    {table' : SessionTable} (h : LoginInv cfg db table ts S)
    (hi : S.auth.requests i = some (request, .written rows))
    (hok : request.commit rows S.auth.authSession = .ok table') {row : AuthSessionRow}
    (hrow : row ∈ table') :
    Accounted table (ts ++ [⟨S, .transaction i .commit, S'⟩]) row := by
  have hsub : ts ⊆ ts ++ [⟨S, .transaction i .commit, S'⟩] := List.subset_append_left _ _
  rcases (mem_commit hok).mp hrow with ⟨old, hold, -, rfl⟩ | ⟨hold, -⟩ | ⟨session, rfl, rfl⟩
  · have hkept : (request.assignment old).playerId = old.playerId ∧
        (request.assignment old).externalIdentityId = old.externalIdentityId ∧
        (request.assignment old).platform = old.platform ∧
        (request.assignment old).authenticationMethod = old.authenticationMethod := by
      cases request with
      | createSession session => exact ⟨rfl, rfl, rfl, rfl⟩
      | rotateSession current next usedAt => exact ⟨rfl, rfl, rfl, rfl⟩
      | revokeSession sessionId revokedAt reason => exact ⟨rfl, rfl, rfl, rfl⟩
    have hid : (request.assignment old).id = old.id := request.assignment.keeps old
    rcases (h.accounted old hold).mono hsub with ⟨first, hfirst, hsame⟩ | ⟨t, ht, j, session, hopens, hof⟩
    · exact .inl ⟨first, hfirst, hsame.trans hid.symm⟩
    · exact .inr ⟨t, ht, j, session, hopens, hid.trans hof.id, hkept.1.trans hof.playerId,
        hkept.2.1.trans hof.externalIdentityId, hkept.2.2.1.trans hof.platform,
        hkept.2.2.2.trans hof.method⟩
  · exact (h.accounted row hold).mono hsub
  · exact .inr ⟨_, List.mem_append_right _ (List.mem_singleton_self _), i, session,
      ⟨rfl, rows, hi⟩, rfl, rfl, rfl, rfl, rfl⟩

variable [Fintype ι]

theorem loginInv_begin {i : ι} {call : ServiceCall} {auth : AuthSystem ι} {l : LoginLabel ι}
    (h : LoginInv cfg db table ts S)
    (hok : perform cfg.auth S.auth (.start i call) = some auth)
    (hconsumed : consumedIn (⟨S, l, { S with auth := auth }⟩ : LoginTransition ι) = none)
    (hused : usedIn (⟨S, l, { S with auth := auth }⟩ : LoginTransition ι) = none)
    (hanswers : ∀ j, fetchedIn j (⟨S, l, { S with auth := auth }⟩ : LoginTransition ι) = none)
    (hlogin : ∀ session, call.request cfg.auth = some (.createSession session) →
      ∃ draw, (S.attempts i).call draw = some call) :
    LoginInv cfg db table (ts ++ [⟨S, l, { S with auth := auth }⟩]) { S with auth := auth } := by
  rcases authStep_cases hok with ⟨j, call', request, hlabel, hrequest, -, -, rfl⟩ | ⟨j, event, hlabel, -⟩
  swap
  · cases hlabel
  obtain ⟨rfl, rfl⟩ := AuthLabel.start.inj hlabel
  refine h.tables hconsumed hused hanswers (fun _ hrow _ => .inl hrow) (fun _ hrow => hrow)
    h.identities (keepsLinks_of_eq rfl) (fun j session phase hj => ?_) rfl
  rcases mem_put (e := (.createSession session, phase)) hj with ⟨rfl, heq⟩ | ⟨-, hj⟩
  · obtain ⟨rfl, -⟩ := Prod.mk.inj heq
    obtain ⟨draw, hattempt⟩ := hlogin session hrequest
    exact ⟨draw, call, hattempt, hrequest⟩
  · exact h.requests j session phase hj

theorem loginInv_transaction {i : ι} {event : AuthEvent} {auth : AuthSystem ι}
    (h : LoginInv cfg db table ts S) (hok : perform cfg.auth S.auth (.step i event) = some auth)
    (hS' : S' = if event.ends then { S.moved i .idle with auth := auth } else { S with auth := auth }) :
    LoginInv cfg db table (ts ++ [⟨S, .transaction i event, S'⟩]) S' := by
  rcases authStep_cases hok with ⟨j, call', request, hlabel, -⟩ | ⟨j, event', hlabel, hadvance⟩
  · cases hlabel
  obtain ⟨rfl, rfl⟩ := AuthLabel.step.inj hlabel
  have hkept : ∀ row ∈ S.auth.authSession,
      Accounted table (ts ++ [⟨S, .transaction i event, S'⟩]) row := fun row hrow =>
    (h.accounted row hrow).mono (List.subset_append_left _ _)
  obtain ⟨request, phase, hi, -, ⟨rows, rfl, hcommit⟩ | ⟨-, hstatement⟩⟩ := advance_cases hadvance
  · rcases hcommit with ⟨table', hcommit, rfl, rfl⟩ | ⟨cause, -, rfl, rfl⟩
    · subst hS'
      refine h.finish (fun _ => rfl) ?_ fun row hrow => accounted_commit h hi hcommit hrow
      cases hid : (S.attempts i).challengeId with
      | none => exact h.drop rfl hid
      | some id => exact h.challenges.use rfl hid hid rfl rfl
    · subst hS'
      exact h.finish (fun _ => rfl) (h.drop rfl rfl) hkept
  · rcases hstatement with ⟨phase', -, rfl, rfl⟩ | ⟨cause, -, rfl, rfl⟩
    · subst hS'
      refine h.tables rfl rfl (fun _ => rfl) (fun _ hrow _ => .inl hrow) (fun _ hrow => hrow)
        h.identities (keepsLinks_of_eq rfl) (fun j session phase'' hj => ?_) rfl
      rcases mem_put (e := (.createSession session, phase'')) hj with ⟨rfl, heq⟩ | ⟨-, hj⟩
      · obtain ⟨rfl, -⟩ := Prod.mk.inj heq
        exact h.requests j session phase hi
      · exact h.requests j session phase'' hj
    · subst hS'
      exact h.finish (fun _ => rfl) (h.drop rfl rfl) hkept

/-- **One step** keeps the invariant of logins. -/
theorem loginInv_step {l : LoginLabel ι} (h : LoginInv cfg db table ts S)
    (hstep : LoginStep cfg S l S') : LoginInv cfg db table (ts ++ [⟨S, l, S'⟩]) S' := by
  cases l with
  | createHiveChallenge draw hiveUsername platform now =>
    simp only [LoginStep, performLogin] at hstep
    split at hstep
    swap
    · cases hstep
    rename_i db' hcreate
    obtain rfl := Option.some.inj hstep
    obtain ⟨hidentities, hrows⟩ := createHiveChallenge_spec hcreate
    refine h.tables rfl rfl (fun _ => rfl) (fun row hrow _ => ?_)
      (fun row hrow => (hrows row).mpr (.inl hrow)) (h.identities.of_eq hidentities)
      (keepsLinks_of_eq hidentities) h.requests rfl
    rcases (hrows row).mp hrow with hrow | rfl
    · exact .inl hrow
    · exact .inr (.inr ⟨_, List.mem_append_right _ (List.mem_singleton_self _), draw, hiveUsername,
        platform, now, rfl, rfl⟩)
  | start i attempt =>
    simp only [LoginStep, performLogin] at hstep
    split at hstep
    swap
    · cases hstep
    rename_i hattempt
    by_cases hfresh : S.auth.requests i = none ∧ attempt.Fresh
    swap
    · rw [if_neg hfresh] at hstep
      cases hstep
    rw [if_pos hfresh] at hstep
    obtain rfl := Option.some.inj hstep
    have hcall : ∀ draw, (S.attempts i).call draw = none := by
      intro draw
      rw [hattempt]
      rfl
    have hnew : attempt.challengeId = none ∧
        Justified cfg db (ts ++ [⟨S, .start i attempt, S.moved i attempt⟩]) S.identity i attempt := by
      cases attempt with
      | consuming login => exact ⟨rfl, trivial⟩
      | exchanging login => exact ⟨rfl, trivial⟩
      | idle => exact hfresh.2.elim
      | verifying login challenge answers => exact hfresh.2.elim
      | hivePlayer login challenge answers player => exact hfresh.2.elim
      | identifying login identity => exact hfresh.2.elim
      | identified login identity record => exact hfresh.2.elim
    refine h.moveOn hcall rfl rfl rfl (fun id hid => ?_) h.identities (keepsLinks_of_eq rfl)
      (fun _ _ => rfl) hnew.2
    rw [hnew.1] at hid
    cases hid
  | consume i =>
    simp only [LoginStep, performLogin] at hstep
    split at hstep
    · rename_i login hattempt
      obtain rfl := Option.some.inj hstep
      exact loginInv_consume h hattempt
    · cases hstep
  | fetched i answer =>
    simp only [LoginStep, performLogin] at hstep
    split at hstep
    · rename_i login challenge answers hattempt
      exact loginInv_fetched h hattempt hstep
    · cases hstep
  | findOrCreatePlayer i playerId =>
    simp only [LoginStep, performLogin] at hstep
    split at hstep
    · rename_i login challenge answers hattempt
      exact loginInv_findOrCreate h hattempt hstep
    · cases hstep
  | exchanged i identity =>
    simp only [LoginStep, performLogin] at hstep
    split at hstep
    swap
    · cases hstep
    rename_i login hattempt
    obtain rfl := Option.some.inj hstep
    refine h.moveOn (fun draw => ?_) rfl rfl rfl (fun _ hid => by cases hid) h.identities
      (keepsLinks_of_eq rfl) (fun _ _ => rfl)
      ⟨_, List.mem_append_right _ (List.mem_singleton_self _), rfl⟩
    rw [hattempt]
    rfl
  | upsertIdentity i id =>
    simp only [LoginStep, performLogin] at hstep
    split at hstep
    · rename_i login identity hattempt
      exact loginInv_upsert h hattempt hstep
    · cases hstep
  | createSession i draw =>
    simp only [LoginStep, performLogin] at hstep
    split at hstep
    swap
    · cases hstep
    rename_i call hcall
    obtain ⟨auth, hperform, rfl⟩ := Option.map_eq_some_iff.mp hstep
    exact loginInv_begin h hperform rfl rfl (fun _ => rfl) fun _ _ => ⟨draw, hcall⟩
  | other i call =>
    simp only [LoginStep, performLogin] at hstep
    split at hstep
    swap
    · cases hstep
    by_cases hother : call.NoLogin
    swap
    · rw [if_neg hother] at hstep
      cases hstep
    rw [if_pos hother] at hstep
    obtain ⟨auth, hperform, rfl⟩ := Option.map_eq_some_iff.mp hstep
    refine loginInv_begin h hperform rfl rfl (fun _ => rfl) fun session hrequest => ?_
    cases call with
    | createHiveSession _ _ _ _ _ _ => exact hother.elim
    | exchangeGoogle _ _ _ _ => exact hother.elim
    | refresh current next now => cases hrequest
    | revokeSession sessionId now => cases hrequest
  | transaction i event =>
    simp only [LoginStep, performLogin] at hstep
    obtain ⟨auth, hperform, heq⟩ := Option.map_eq_some_iff.mp hstep
    exact loginInv_transaction h hperform heq.symm
  | fail i =>
    obtain rfl := Option.some.inj hstep
    exact h.finish (fun _ => rfl) (h.drop rfl rfl) fun row hrow =>
      (h.accounted row hrow).mono (List.subset_append_left _ _)
  | write change =>
    simp only [LoginStep, performLogin] at hstep
    obtain ⟨db', happly, rfl⟩ := Option.map_eq_some_iff.mp hstep
    obtain ⟨hvalid, hkeeps, hchallenges⟩ := otherWrite_spec h.identities happly
    refine h.tables rfl rfl (fun _ => rfl) (fun row hrow _ => .inl ?_) (fun row hrow => ?_) hvalid
      hkeeps h.requests rfl
    · rw [hchallenges] at hrow
      exact hrow
    · rw [hchallenges]
      exact hrow

end Steps

/-! ### Runs -/

section Runs

variable {ι : Type}

/-- No login is under way. -/
def LoginSystem.start (db : IdentityDb) (table : SessionTable) : LoginSystem ι :=
  ⟨db, .start table, fun _ => .idle⟩

variable [DecidableEq ι] {cfg : LoginConfig} {db : IdentityDb} {table : SessionTable}
variable {ts : List (LoginTransition ι)} {S : LoginSystem ι}

theorem loginInv_start (hvalid : ValidIdentities db) :
    LoginInv cfg db table [] (LoginSystem.start db table : LoginSystem ι) where
  challenges := {
    issued := fun _ hrow _ => .inl hrow
    spent := fun _ hid => absurd hid List.not_mem_nil
    consumed_once := List.nodup_nil
    used_consumed := fun _ hid => absurd hid List.not_mem_nil
    used_once := List.nodup_nil
    held := fun _ _ hid => by cases hid
    apart := fun _ _ _ hid => by cases hid }
  identities := hvalid
  attempts _ := trivial
  requests _ _ _ h := by cases h
  accounted row hrow := .inl ⟨row, hrow, rfl⟩

theorem session_of_hive {auth : AuthConfig} {draw : Draw} {challenge : HiveLoginChallengeRecord}
    {player : PlayerIdentity} {provider : ExternalSigningProvider} {now : Timestamp}
    {session : NewSession}
    (h : (ServiceCall.createHiveSession draw (some challenge) true player provider now).request auth =
      some (.createSession session)) :
    session.authenticationMethod = .directHiveChallenge ∧ session.player = player ∧
      session.platform = challenge.platform ∧ session.issuedAt = now := by
  obtain rfl := SessionRequest.createSession.inj (Option.some.inj h)
  exact ⟨rfl, rfl, rfl, rfl⟩

theorem session_of_google {auth : AuthConfig} {draw : Draw} {platform : ClientPlatform}
    {record : ExternalIdentityRecord} {now : Timestamp} {session : NewSession}
    (h : (ServiceCall.exchangeGoogle draw platform record now).request auth =
      some (.createSession session)) :
    session.authenticationMethod = .googleOidc ∧ record.player = some session.player ∧
      session.externalIdentityId = some record.id ∧ record.status ≠ .disabled := by
  simp only [ServiceCall.request, AuthService.exchangeGoogle] at h
  by_cases hdisabled : record.status = .disabled
  · rw [if_pos hdisabled] at h
    cases h
  · rw [if_neg hdisabled] at h
    cases hplayer : record.player with
    | none =>
      rw [hplayer] at h
      cases h
    | some player =>
      rw [hplayer] at h
      obtain rfl := SessionRequest.createSession.inj (Option.some.inj h)
      exact ⟨rfl, rfl, rfl, hdisabled⟩

theorem opens_cases {before : List (LoginTransition ι)} {t : LoginTransition ι} {i : ι}
    {session : NewSession} (h : LoginInv cfg db table before t.pre) (hopens : Opens t i session) :
    (session.authenticationMethod = .directHiveChallenge ∧
      ∃ login row recoveredKey, HiveProvenance cfg db before t i session login row recoveredKey) ∨
    (session.authenticationMethod = .googleOidc ∧
      ∃ identity row, GoogleProvenance cfg before t i session identity row) := by
  obtain ⟨hlabel, rows, hi⟩ := hopens
  obtain ⟨draw, call, hcall, hrequest⟩ := h.requests i session _ hi
  have hjustified := h.attempts i
  have hused : usedIn t = (t.pre.attempts i).challengeId := by
    unfold usedIn
    rw [hlabel]
  cases hattempt : t.pre.attempts i with
  | hivePlayer login challenge answers player =>
    rw [hattempt] at hcall hjustified hused
    obtain rfl := Option.some.inj hcall
    obtain ⟨hmethod, rfl, hplatform, hclock⟩ := session_of_hive hrequest
    obtain ⟨husername, hverify, row, us, c, vs, rfl, hconsumption⟩ := hjustified
    obtain ⟨recoveredKey, hsigned, haccepted⟩ := verify_accepts hverify
    have hrow : row.hiveUsername = login.hiveUsername := hconsumption.consumable.2.1
    rw [← hrow] at husername haccepted
    exact .inl ⟨hmethod, login, row, recoveredKey, hused, husername, hplatform, hclock, hsigned,
      answers, us, c, vs, hconsumption, haccepted⟩
  | identified login identity record =>
    rw [hattempt] at hcall hjustified
    obtain rfl := Option.some.inj hcall
    obtain ⟨hmethod, hplayer, hidentity, hstatus⟩ := session_of_google hrequest
    obtain ⟨hverified, hlinked⟩ := hjustified
    obtain ⟨row, hrow⟩ := hlinked session.player hplayer hstatus
    refine .inr ⟨hmethod, identity, row, hverified, hrow.mem, hrow.subject, fun other hother hsubject =>
      ?_, by rw [hidentity, hrow.id_eq], hrow.linked, hrow.enabled⟩
    exact h.identities.one other hother row hrow.mem (hsubject.1.trans hrow.subject.1.symm)
      (hsubject.2.trans hrow.subject.2.symm)
  | idle =>
    rw [hattempt] at hcall
    cases hcall
  | consuming login =>
    rw [hattempt] at hcall
    cases hcall
  | verifying login challenge answers =>
    rw [hattempt] at hcall
    cases hcall
  | exchanging login =>
    rw [hattempt] at hcall
    cases hcall
  | identifying login identity =>
    rw [hattempt] at hcall
    cases hcall

variable [Fintype ι]

/-- **A whole run** keeps the invariant of logins. -/
theorem loginInv_run (hvalid : ValidIdentities db)
    (hrun : Run (LoginStep cfg) (LoginSystem.start db table) ts S) :
    LoginInv cfg db table ts S := by
  induction hrun with
  | refl => exact loginInv_start hvalid
  | @snoc m S' ts l hr hl ih => exact loginInv_step ih hl

/-- **Every session of a login has its provenance**, over every run on any number of connections. -/
theorem login_provenance (hvalid : ValidIdentities db)
    (hrun : Run (LoginStep cfg) (LoginSystem.start db table) ts S) :
    LoginProvenance cfg db table ts S := by
  have h := loginInv_run hvalid hrun
  -- the invariant holds before each step that opens a session
  have hbefore : ∀ before t after, ts = before ++ t :: after →
      LoginInv cfg db table before t.pre := by
    rintro before t after rfl
    obtain ⟨m, hfirst, hrest⟩ := hrun.of_append
    obtain ⟨rfl, -, -⟩ := hrest.of_cons
    exact loginInv_run hvalid hfirst
  refine ⟨h.accounted, fun before t after i session heq hopens hmethod => ?_, h.challenges.used_once,
    h.challenges.consumed_once, fun before t after i session heq hopens hmethod => ?_⟩
  · rcases opens_cases (hbefore before t after heq) hopens with ⟨-, hhive⟩ | ⟨hgoogle, -⟩
    · exact hhive
    · rw [hmethod] at hgoogle
      cases hgoogle
  · rcases opens_cases (hbefore before t after heq) hopens with ⟨hhive, -⟩ | ⟨-, hgoogle⟩
    · rw [hmethod] at hhive
      cases hhive
    · exact hgoogle

end Runs

/-! ### A login with Hive, one with Google, and a replay -/

/-- Digests and keys as they are on the inputs of `exampleLogins`. -/
def exampleLoginConfig : LoginConfig where
  auth := exampleAuthConfig
  audience := "hive-chameleon-client"
  challengeTtlSeconds := 300
  sha256 _ := "bc7ed30b84cf185cfff23653d57f2b645aeee0a54cfb58bcedf6fcba91f6598b"
  subjectLookupHash _ := "1d0a583086007e6ffb40a27947259e2b90b06e2dcdc168948324a819fe1a4452"
  wax := {
    Transaction := Unit
    createTransactionFromJson := fun _ => none
    operations := fun _ => []
    signatures := fun _ => []
    sigDigest := fun _ => ""
    id := fun _ => ""
    toApi := fun _ => ""
    parseApi := fun _ => none
    getPublicKeyFromSignature := fun _ _ => some "STM7key" }

def exampleIdentityDb : IdentityDb :=
  ⟨⟨.empty, .empty, .empty, .empty, .empty, []⟩, .empty, .empty⟩

/-- A login of alice with her only challenge. -/
def exampleHiveLogin (now : Timestamp) : Attempt :=
  .consuming ⟨⟨6⟩, "alice", "1f" ++ String.ofList (List.replicate 128 '1'), .keychain, now⟩

/-- The schedule: alice logs in and sends her challenge again, and someone logs in with Google. -/
def exampleLogins : List (LoginLabel Bool) :=
  [.createHiveChallenge ⟨⟨6⟩, ⟨7⟩, "bm9uY2U"⟩ "alice" .webgl 1752662400000,
    .start false (exampleHiveLogin 1752662500000), .consume false,
    .start true (exampleHiveLogin 1752662500000), .consume true,
    .fetched false (.ok (some ⟨[], [("STM7key", ⟨1, Nat.one_pos⟩)], ⟨1, Nat.one_pos⟩⟩)),
    .findOrCreatePlayer false ⟨1⟩,
    .createSession false ⟨⟨10⟩, "hash10"⟩, .transaction false .statement,
    .transaction false .statement, .transaction false .statement, .transaction false .commit,
    .start true (.exchanging ⟨.windows, 1752662600000⟩),
    .exchanged true ⟨"accounts.google.com", "110169484474386276334"⟩, .upsertIdentity true ⟨20⟩]

theorem valid_exampleIdentityDb : ValidIdentities exampleIdentityDb where
  one := fun _ ha => absurd ha Table.not_mem_empty
  unlinked := fun _ hrow => absurd hrow Table.not_mem_empty

theorem login_provenance_exampleLogins :
    ∃ ts S, Run (LoginStep exampleLoginConfig) (LoginSystem.start exampleIdentityDb .empty) ts S ∧
      ts.map Transition.label = exampleLogins ∧
        LoginProvenance exampleLoginConfig exampleIdentityDb .empty ts S := by
  have hsome : (replay (performLogin exampleLoginConfig)
      (LoginSystem.start exampleIdentityDb .empty) exampleLogins).isSome = true := by decide +kernel
  obtain ⟨⟨ts, S⟩, hreplay⟩ := Option.isSome_iff_exists.mp hsome
  obtain ⟨hrun, hlabels⟩ := replay_run (fun _ _ _ h => h) hreplay
  exact ⟨ts, S, hrun, hlabels, login_provenance valid_exampleIdentityDb hrun⟩

end HiveChameleon.Auth
