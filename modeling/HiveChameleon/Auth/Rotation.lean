import HiveChameleon.Auth.Identities
import HiveChameleon.Auth.SessionSafety

/-!
# Auth.Rotation — refresh tokens are spent once, and access follows the session

Tokens stand for their hashes: the HMAC is injective on issued tokens, and no two of the tokens that
a run draws are equal.  In every run a token is accepted by `rotateSession` once at most, an open
session has exactly one issued token that can be accepted, and `AccessSessionGuard` lets a token
pass only while its session is open.
-/

namespace HiveChameleon.Auth

open Gateway Lib

/-! ### `AccessSessionGuard` -/

/-- A header of a request: missing, one value, or several. -/
inductive HeaderValue where
  | one (value : String)
  | many (values : List String)
deriving DecidableEq, Repr

structure AccessTokenClaims where
  playerId : Uuid
  sessionId : Uuid
deriving DecidableEq, Repr

structure ActiveSessionRecord where
  authSessionId : Uuid
  disclosureAcknowledged : Bool
  expiresAt : Timestamp
  player : PlayerIdentity
  playerId : Uuid
deriving DecidableEq, Repr

/-- A player has acknowledged a disclosure in force: `disclosureAcknowledgedSql`. -/
def playerAcknowledged (playerId : Uuid) (time : Timestamp) (db : IdentityDb) : Prop :=
  ∃ disclosure ∈ db.publicRecordDisclosure.rows, disclosure.InForce time ∧
    ∃ row ∈ db.disclosureAcknowledgment.rows, row.playerId = some playerId ∧
      row.disclosureVersion = disclosure.disclosureVersion

instance (playerId : Uuid) (time : Timestamp) (db : IdentityDb) :
    Decidable (playerAcknowledged playerId time db) :=
  inferInstanceAs (Decidable (∃ _ ∈ _, _))

/-- An open session that has not expired. -/
def AuthSessionRow.Active (row : AuthSessionRow) (time : Timestamp) : Prop :=
  row.revokedAt = none ∧ time < row.expiresAt

instance (row : AuthSessionRow) (time : Timestamp) : Decidable (row.Active time) :=
  inferInstanceAs (Decidable (_ ∧ _))

def findActiveSession (sessionId : Uuid) (time : Timestamp) (table : SessionTable)
    (db : IdentityDb) : Option ActiveSessionRecord :=
  match table.rows.find? fun row => row.id = sessionId && row.Active time with
  | none => none
  | some row => (db.player.rows.find? fun player => player.id = row.playerId).map fun player => {
      authSessionId := row.id
      disclosureAcknowledged := decide (playerAcknowledged player.id time db)
      expiresAt := row.expiresAt
      player := mapPlayer player
      playerId := player.id }

def invalidSession : HttpProblem :=
  ⟨"invalid_session", "The session credential is missing, invalid, expired, or revoked.", 401,
    "Unauthorized"⟩

/-- `bearerToken` -/
def bearerToken : Option HeaderValue → Except HttpProblem String
  | some (.one value) =>
    if value.toList.take 7 = "Bearer ".toList ∧ value.toList.drop 7 ≠ [] ∧
        ' ' ∉ value.toList.drop 7 then .ok (String.ofList (value.toList.drop 7))
    else .error invalidSession
  | some (.many _) => .error invalidSession
  | none => .error invalidSession

/-- `canActivate`, with the two clock readings it takes; `verifyAccessToken` is a parameter. -/
def canActivate (verifyAccessToken : String → Timestamp → Except HttpProblem AccessTokenClaims)
    (authorization : Option HeaderValue) (now checkedAt : Timestamp) (table : SessionTable)
    (db : IdentityDb) : Except HttpProblem ActiveSessionRecord := do
  let token ← bearerToken authorization
  let claims ← verifyAccessToken token now
  match findActiveSession claims.sessionId checkedAt table db with
  | some session =>
    if session.playerId = claims.playerId then pure session else .error invalidSession
  | none => .error invalidSession

/-! ### Tokens -/

/-- A token that `rotateSession` finds. -/
def Acceptable (hash : String) (table : SessionTable) (time : Timestamp) : Prop :=
  ∃ row ∈ table, row.refreshTokenHash = hash ∧ row.Active time

/-- The token `hash` that a commit gives out for a session. -/
def SessionRequest.Gives (request : SessionRequest) (rows : List Uuid) (sessionId : Uuid)
    (hash : String) : Prop :=
  match request with
  | createSession session => sessionId = session.id ∧ hash = session.refreshTokenHash
  | rotateSession _ next _ => sessionId ∈ rows ∧ hash = next
  | revokeSession _ _ _ => False

section History

variable {ι : Type}

abbrev AuthTransition (ι : Type) := Transition (AuthSystem ι) (AuthLabel ι)

/-- The step commits the request, which holds `rows`. -/
def CommitsRequest (t : AuthTransition ι) (request : SessionRequest) (rows : List Uuid) : Prop :=
  ∃ i, t.label = .step i .commit ∧ t.pre.requests i = some (request, .written rows)

/-- The token was issued for the session: it was there at the start, or a commit gave it out. -/
def IssuedTo (table : SessionTable) (ts : List (AuthTransition ι)) (sessionId : Uuid)
    (hash : String) : Prop :=
  (∃ row ∈ table, row.id = sessionId ∧ row.refreshTokenHash = hash) ∨
    ∃ t ∈ ts, ∃ request rows, CommitsRequest t request rows ∧ request.Gives rows sessionId hash

/-- `rotateSession` accepts the token in this step. -/
def Accepts (t : AuthTransition ι) (hash : String) : Prop :=
  ∃ next usedAt row rows, CommitsRequest t (.rotateSession hash next usedAt) (row :: rows)

/-- The tokens that a request draws when it starts. -/
def AuthLabel.draws (cfg : AuthConfig) : AuthLabel ι → List String
  | start _ call => ((call.request cfg).map SessionRequest.newHashes).getD []
  | step _ _ => []

def drawnIn (cfg : AuthConfig) (t : AuthTransition ι) : List String := t.label.draws cfg

/-- The tokens of the first table, and all that were drawn since. -/
def drawn (cfg : AuthConfig) (table : SessionTable) (ts : List (AuthTransition ι)) : List String :=
  table.rows.map (·.refreshTokenHash) ++ ts.flatMap (drawnIn cfg)

/-- **One token of a session is good**, accepted once, and only while the session is active. -/
structure RotationSafe (table : SessionTable) (ts : List (AuthTransition ι)) (S : AuthSystem ι) :
    Prop where
  once : ∀ before t after hash, ts = before ++ t :: after → Accepts t hash →
    ∀ t' ∈ after, ¬ Accepts t' hash
  active : ∀ time, ∀ row ∈ S.authSession, row.Active time →
    ∃! hash, IssuedTo table ts row.id hash ∧ Acceptable hash S.authSession time
  inactive : ∀ time, ∀ row ∈ S.authSession, ¬ row.Active time → ∀ hash,
    IssuedTo table ts row.id hash → ¬ Acceptable hash S.authSession time
  guard : ∀ verify authorization now checkedAt db session,
    canActivate verify authorization now checkedAt S.authSession db = .ok session →
      ∃ token claims, bearerToken authorization = .ok token ∧ verify token now = .ok claims ∧
        ∃ row ∈ S.authSession, row.id = claims.sessionId ∧ row.playerId = claims.playerId ∧
          row.Active checkedAt

/-- A token that no row has and no open request draws, and that was drawn before. -/
structure Spent (cfg : AuthConfig) (table : SessionTable) (ts : List (AuthTransition ι))
    (S : AuthSystem ι) (hash : String) : Prop where
  known : hash ∈ drawn cfg table ts
  rows : ∀ row ∈ S.authSession, row.refreshTokenHash ≠ hash
  requests : ∀ i, ∀ e ∈ S.requests i, hash ∉ e.1.newHashes

/-- The invariant of tokens. -/
structure TokenInv (cfg : AuthConfig) (table : SessionTable) (ts : List (AuthTransition ι))
    (S : AuthSystem ι) : Prop where
  inv : Inv cfg S
  rows_drawn : ∀ row ∈ S.authSession, row.refreshTokenHash ∈ drawn cfg table ts
  requests_drawn : ∀ i, ∀ e ∈ S.requests i, ∀ hash ∈ e.1.newHashes, hash ∈ drawn cfg table ts
  unique : ∀ a ∈ S.authSession, ∀ b ∈ S.authSession, a.refreshTokenHash = b.refreshTokenHash → a = b
  row_issued : ∀ row ∈ S.authSession, IssuedTo table ts row.id row.refreshTokenHash
  issued : ∀ sessionId hash, IssuedTo table ts sessionId hash →
    (∃ row ∈ S.authSession, row.id = sessionId ∧ row.refreshTokenHash = hash) ∨
      Spent cfg table ts S hash
  accepted : ∀ t ∈ ts, ∀ hash, Accepts t hash → Spent cfg table ts S hash

theorem drawn_eq {cfg : AuthConfig} {table : SessionTable} {ts : List (AuthTransition ι)} :
    drawn cfg table ts =
      table.rows.map (·.refreshTokenHash) ++ (ts.map Transition.label).flatMap (AuthLabel.draws cfg) := by
  rw [List.flatMap_map]
  rfl

theorem drawn_append {cfg : AuthConfig} {table : SessionTable} {ts : List (AuthTransition ι)}
    (us : List (AuthTransition ι)) :
    drawn cfg table (ts ++ us) = drawn cfg table ts ++ us.flatMap (drawnIn cfg) := by
  unfold drawn
  rw [List.flatMap_append, List.append_assoc]

theorem drawn_snoc {cfg : AuthConfig} {table : SessionTable} {ts : List (AuthTransition ι)}
    (t : AuthTransition ι) :
    drawn cfg table (ts ++ [t]) = drawn cfg table ts ++ drawnIn cfg t := by
  rw [drawn_append, List.flatMap_singleton]

theorem IssuedTo.mono {table : SessionTable} {ts us : List (AuthTransition ι)} {sessionId : Uuid}
    {hash : String} (h : IssuedTo table ts sessionId hash) (hsub : ts ⊆ us) : IssuedTo table us sessionId hash := by
  rcases h with h | ⟨t, ht, h⟩
  · exact .inl h
  · exact .inr ⟨t, hsub ht, h⟩

theorem issuedTo_append {table : SessionTable} {ts : List (AuthTransition ι)}
    {t : AuthTransition ι} {sessionId : Uuid} {hash : String}
    (h : IssuedTo table (ts ++ [t]) sessionId hash) :
    IssuedTo table ts sessionId hash ∨
      ∃ request rows, CommitsRequest t request rows ∧ request.Gives rows sessionId hash := by
  rcases h with h | ⟨t', ht', h⟩
  · exact .inl (.inl h)
  · rcases List.mem_append.mp ht' with ht' | ht'
    · exact .inl (.inr ⟨t', ht', h⟩)
    · obtain rfl := List.mem_singleton.mp ht'
      exact .inr h

end History

/-! ### A commit -/

section Commit

variable {ι : Type} {cfg : AuthConfig} {table table' : SessionTable} {ts : List (AuthTransition ι)}
variable {S : AuthSystem ι} {i : ι} {request : SessionRequest} {rows : List Uuid}

theorem commit_row (hok : request.commit rows S.authSession = .ok table') {row : AuthSessionRow}
    (hrow : row ∈ table') :
    request.Gives rows row.id row.refreshTokenHash ∨
      ∃ old ∈ S.authSession, old.id = row.id ∧ old.refreshTokenHash = row.refreshTokenHash ∧
        ∀ current next usedAt, request = .rotateSession current next usedAt → old.id ∉ rows := by
  rcases (mem_commit hok).mp hrow with ⟨old, hold, hin, rfl⟩ | ⟨hold, hout⟩ | ⟨session, rfl, rfl⟩
  · cases request with
    | createSession session =>
      exact .inr ⟨old, hold, rfl, rfl, fun _ _ _ heq => by cases heq⟩
    | rotateSession current next usedAt => exact .inl ⟨hin, rfl⟩
    | revokeSession sessionId revokedAt reason =>
      exact .inr ⟨old, hold, rfl, rfl, fun _ _ _ heq => by cases heq⟩
  · exact .inr ⟨row, hold, rfl, rfl, fun _ _ _ _ => hout⟩
  · exact .inl ⟨rfl, rfl⟩

theorem SessionRequest.Gives.mem_newHashes {sessionId : Uuid} {hash : String}
    (h : request.Gives rows sessionId hash) : hash ∈ request.newHashes := by
  cases request with
  | createSession session =>
    obtain ⟨-, rfl⟩ := h
    exact List.mem_singleton_self _
  | rotateSession current next usedAt =>
    obtain ⟨-, rfl⟩ := h
    exact List.mem_singleton_self _
  | revokeSession id revokedAt reason => exact h.elim

theorem commit_gives (h : TokenInv cfg table ts S)
    (hi : S.requests i = some (request, .written rows))
    (hok : request.commit rows S.authSession = .ok table') {sessionId : Uuid} {hash : String}
    (hgives : request.Gives rows sessionId hash) :
    ∃ row ∈ table', row.id = sessionId ∧ row.refreshTokenHash = hash := by
  cases request with
  | createSession session =>
    obtain ⟨rfl, rfl⟩ := hgives
    exact ⟨session.row, (mem_commit hok).mpr (.inr (.inr ⟨session, rfl, rfl⟩)), rfl, rfl⟩
  | rotateSession current next usedAt =>
    obtain ⟨hin, rfl⟩ := hgives
    obtain ⟨row, hrow, rfl, -⟩ := h.inv.holds i _ hi sessionId hin
    exact ⟨_, (mem_commit hok).mpr (.inl ⟨row, hrow, hin, rfl⟩), rfl, rfl⟩
  | revokeSession id revokedAt reason => exact hgives.elim

theorem commit_keeps (hok : request.commit rows S.authSession = .ok table') {old : AuthSessionRow}
    (hold : old ∈ S.authSession)
    (hkept : ∀ current next usedAt, request = .rotateSession current next usedAt → old.id ∉ rows) :
    ∃ row ∈ table', row.id = old.id ∧ row.refreshTokenHash = old.refreshTokenHash := by
  by_cases hin : old.id ∈ rows
  · refine ⟨_, (mem_commit hok).mpr (.inl ⟨old, hold, hin, rfl⟩), request.assignment.keeps old, ?_⟩
    cases request with
    | createSession session => rfl
    | rotateSession current next usedAt => exact absurd hin (hkept current next usedAt rfl)
    | revokeSession id revokedAt reason => rfl
  · exact ⟨old, (mem_commit hok).mpr (.inr (.inl ⟨hold, hin⟩)), rfl, rfl⟩

theorem commit_unique (h : TokenInv cfg table ts S)
    (hi : S.requests i = some (request, .written rows))
    (hok : request.commit rows S.authSession = .ok table') :
    ∀ a ∈ table', ∀ b ∈ table', a.refreshTokenHash = b.refreshTokenHash → a = b := by
  have hnew : ∀ row ∈ S.authSession, row.refreshTokenHash ∉ request.newHashes := fun row hrow hin =>
    ((h.inv.unused i _ hi).2 _ hin).1 row hrow rfl
  intro a ha b hb heq
  refine Table.eq_of_key ha hb ?_
  rcases commit_row hok ha with hgives | ⟨old, hold, hid, hhash, hkept⟩
  · rcases commit_row hok hb with hgives' | ⟨old, hold, -, hhash, -⟩
    · -- both tokens were given out by this commit
      cases request with
      | createSession session => exact hgives.1.trans hgives'.1.symm
      | rotateSession current next usedAt =>
        obtain ⟨row, hrow, hid, hmatch, -⟩ := h.inv.holds i _ hi a.id hgives.1
        obtain ⟨row', hrow', hid', hmatch', -⟩ := h.inv.holds i _ hi b.id hgives'.1
        have hsame : row = row' := h.unique row hrow row' hrow' (hmatch.1.trans hmatch'.1.symm)
        rw [← hid, ← hid', hsame]
      | revokeSession id revokedAt reason => exact hgives.elim
    · have hin := hgives.mem_newHashes
      rw [heq, ← hhash] at hin
      exact absurd hin (hnew old hold)
  · rcases commit_row hok hb with hgives' | ⟨old', hold', hid', hhash', -⟩
    · have hin := hgives'.mem_newHashes
      rw [← heq, ← hhash] at hin
      exact absurd hin (hnew old hold)
    · have hsame : old = old' :=
        h.unique old hold old' hold' (hhash.trans (heq.trans hhash'.symm))
      rw [← hid, ← hid', hsame]

variable [DecidableEq ι]

theorem Spent.commit {us : List (AuthTransition ι)}
    (hdrawn : drawn cfg table us = drawn cfg table ts)
    (hi : S.requests i = some (request, .written rows))
    (hok : request.commit rows S.authSession = .ok table') {hash : String}
    (hspent : Spent cfg table ts S hash) : Spent cfg table us (S.finish i table') hash := by
  refine ⟨hdrawn ▸ hspent.known, fun row hrow hhash => ?_, fun j e he => ?_⟩
  · rcases commit_row hok hrow with hgives | ⟨old, hold, -, hold', -⟩
    · exact hspent.requests i _ hi (hhash ▸ hgives.mem_newHashes)
    · exact hspent.rows old hold (hold'.trans hhash)
  · exact hspent.requests j e (mem_finish he).2

/-- **A rotation spends its token**. -/
theorem spent_of_rotation (h : TokenInv cfg table ts S) {us : List (AuthTransition ι)}
    (hdrawn : drawn cfg table us = drawn cfg table ts) {current next : String} {usedAt : Timestamp}
    {id : Uuid} (hi : S.requests i = some (.rotateSession current next usedAt, .written rows))
    (hin : id ∈ rows)
    (hok : (SessionRequest.rotateSession current next usedAt).commit rows S.authSession = .ok table') :
    Spent cfg table us (S.finish i table') current := by
  obtain ⟨held, hheld, hid, hmatch, -⟩ := h.inv.holds i _ hi id hin
  have hcurrent : held.refreshTokenHash = current := hmatch.1
  have hfresh : ∀ j, ∀ e ∈ S.requests j, current ∉ e.1.newHashes := by
    intro j e he hdraw
    exact ((h.inv.unused j e he).2 current hdraw).1 held hheld hcurrent
  refine ⟨?_, fun row hrow hhash => ?_, fun j e he => hfresh j e (mem_finish he).2⟩
  · rw [hdrawn, ← hcurrent]
    exact h.rows_drawn held hheld
  · rcases commit_row hok hrow with hgives | ⟨old, hold, -, hold', hkept⟩
    · exact hfresh i _ hi (hhash ▸ hgives.mem_newHashes)
    · have hsame : old = held := h.unique old hold held hheld (hold'.trans (hhash.trans hcurrent.symm))
      refine hkept current next usedAt rfl ?_
      rw [hsame, hid]
      exact hin

end Commit

/-! ### Steps -/

section Steps

variable {ι : Type} {cfg : AuthConfig} {table : SessionTable}
variable {ts : List (AuthTransition ι)} {S S' : AuthSystem ι}

theorem TokenInv.of_same {t : AuthTransition ι} (h : TokenInv cfg table ts S)
    (hinv : Inv cfg S') (hrows : S'.authSession = S.authSession)
    (hnone : ∀ request rows, ¬ CommitsRequest t request rows)
    (hnodup : (drawn cfg table (ts ++ [t])).Nodup)
    (hrequests : ∀ i, ∀ e ∈ S'.requests i,
      (∃ e' ∈ S.requests i, e'.1.newHashes = e.1.newHashes) ∨ e.1.newHashes = drawnIn cfg t) :
    TokenInv cfg table (ts ++ [t]) S' := by
  rw [drawn_snoc] at hnodup
  have hdisjoint := (List.nodup_append.mp hnodup).2.2
  have hsub : drawn cfg table ts ⊆ drawn cfg table (ts ++ [t]) := by
    rw [drawn_snoc]
    exact List.subset_append_left _ _
  have hspent : ∀ hash, Spent cfg table ts S hash → Spent cfg table (ts ++ [t]) S' hash := by
    intro hash hspent
    refine ⟨hsub hspent.known, fun row hrow => hspent.rows row (hrows ▸ hrow), fun i e he hin => ?_⟩
    rcases hrequests i e he with ⟨e', he', heq⟩ | heq
    · exact hspent.requests i e' he' (heq ▸ hin)
    · rw [heq] at hin
      exact hdisjoint hash hspent.known hash hin rfl
  refine ⟨hinv, fun row hrow => hsub (h.rows_drawn row (hrows ▸ hrow)), fun i e he hash hin => ?_,
    ?_, fun row hrow => ?_, fun sessionId hash hissued => ?_, fun t' ht' hash haccepts => ?_⟩
  · rw [drawn_snoc]
    rcases hrequests i e he with ⟨e', he', heq⟩ | heq
    · exact List.mem_append_left _ (h.requests_drawn i e' he' hash (heq ▸ hin))
    · exact List.mem_append_right _ (heq ▸ hin)
  · rw [hrows]
    exact h.unique
  · exact (h.row_issued row (hrows ▸ hrow)).mono (List.subset_append_left _ _)
  · rcases issuedTo_append hissued with hissued | ⟨request, rows, hcommit, -⟩
    · rcases h.issued sessionId hash hissued with hrow | hs
      · rw [hrows]
        exact .inl hrow
      · exact .inr (hspent hash hs)
    · exact absurd hcommit (hnone request rows)
  · rcases List.mem_append.mp ht' with ht' | ht'
    · exact hspent hash (h.accepted t' ht' hash haccepts)
    · obtain rfl := List.mem_singleton.mp ht'
      obtain ⟨next, usedAt, row, rows, hcommit⟩ := haccepts
      exact absurd hcommit (hnone _ _)

theorem tokenInv_start (hvalid : ValidSessions table)
    (hnodup : (drawn cfg table ([] : List (AuthTransition ι))).Nodup) :
    TokenInv cfg table [] (AuthSystem.start table : AuthSystem ι) where
  inv := inv_start hvalid
  rows_drawn row hrow := List.mem_append_left _ (List.mem_map_of_mem hrow)
  requests_drawn _ _ he := by cases he
  unique a ha b hb heq := by
    have hrows : (table.rows.map (·.refreshTokenHash)).Nodup := (List.nodup_append.mp hnodup).1
    exact List.inj_on_of_nodup_map hrows ha hb heq
  row_issued row hrow := .inl ⟨row, hrow, rfl, rfl⟩
  issued := by
    rintro sessionId hash (hrow | ⟨t, ht, -⟩)
    · exact .inl hrow
    · exact absurd ht List.not_mem_nil
  accepted t ht := absurd ht List.not_mem_nil

variable [DecidableEq ι]

theorem TokenInv.commit {i : ι} {request : SessionRequest} {rows : List Uuid} {table' : SessionTable}
    {t : AuthTransition ι} (h : TokenInv cfg table ts S)
    (hi : S.requests i = some (request, .written rows))
    (hok : request.commit rows S.authSession = .ok table') (hpre : t.pre = S)
    (hlabel : t.label = .step i .commit) :
    TokenInv cfg table (ts ++ [t]) (S.finish i table') := by
  have hdrawn : drawn cfg table (ts ++ [t]) = drawn cfg table ts := by
    rw [drawn_snoc, drawnIn, hlabel]
    exact List.append_nil _
  have hcommits : CommitsRequest t request rows := ⟨i, hlabel, hpre ▸ hi⟩
  have honly : ∀ request' rows', CommitsRequest t request' rows' → request' = request ∧ rows' = rows := by
    rintro request' rows' ⟨j, hlabel', hj⟩
    obtain ⟨rfl, -⟩ := AuthLabel.step.inj (hlabel.symm.trans hlabel')
    rw [hpre, hi] at hj
    obtain ⟨rfl, hphase⟩ := Prod.mk.inj (Option.some.inj hj)
    exact ⟨rfl, (Phase.written.inj hphase).symm⟩
  refine ⟨h.inv.commit hi hok, fun row hrow => ?_, fun j e he hash hin => ?_,
    commit_unique h hi hok, fun row hrow => ?_, fun sessionId hash hissued => ?_,
    fun t' ht' hash haccepts => ?_⟩
  · rw [hdrawn]
    rcases commit_row hok hrow with hgives | ⟨old, hold, -, hhash, -⟩
    · exact h.requests_drawn i _ hi _ hgives.mem_newHashes
    · rw [← hhash]
      exact h.rows_drawn old hold
  · rw [hdrawn]
    exact h.requests_drawn j e (mem_finish he).2 hash hin
  · rcases commit_row hok hrow with hgives | ⟨old, hold, hid, hhash, -⟩
    · exact .inr ⟨t, List.mem_append_right _ (List.mem_singleton_self _), request, rows, hcommits,
        hgives⟩
    · rw [← hid, ← hhash]
      exact (h.row_issued old hold).mono (List.subset_append_left _ _)
  · rcases issuedTo_append hissued with hissued | ⟨request', rows', hcommit, hgives⟩
    · rcases h.issued sessionId hash hissued with ⟨row, hrow, rfl, rfl⟩ | hspent
      swap
      · exact .inr (hspent.commit hdrawn hi hok)
      by_cases hrotated : ∃ current next usedAt,
          request = .rotateSession current next usedAt ∧ row.id ∈ rows
      · -- the row's token is the one that was rotated away
        obtain ⟨current, next, usedAt, rfl, hin⟩ := hrotated
        obtain ⟨held, hheld, hid, hmatch, -⟩ := h.inv.holds i _ hi row.id hin
        obtain rfl := Table.eq_of_key hheld hrow hid
        have hcurrent : held.refreshTokenHash = current := hmatch.1
        rw [hcurrent]
        exact .inr (spent_of_rotation h hdrawn hi hin hok)
      · refine .inl (commit_keeps hok hrow fun current next usedAt heq hin => ?_)
        exact hrotated ⟨current, next, usedAt, heq, hin⟩
    · obtain ⟨rfl, rfl⟩ := honly request' rows' hcommit
      exact .inl (commit_gives h hi hok hgives)
  · rcases List.mem_append.mp ht' with ht' | ht'
    · exact (h.accepted t' ht' hash haccepts).commit hdrawn hi hok
    · obtain rfl := List.mem_singleton.mp ht'
      obtain ⟨next, usedAt, row, rest, hcommit⟩ := haccepts
      obtain ⟨rfl, rfl⟩ := honly _ _ hcommit
      exact spent_of_rotation h hdrawn hi List.mem_cons_self hok

variable [Fintype ι]

/-- **One step** keeps the invariant of tokens, when it draws new tokens. -/
theorem TokenInv.step {l : AuthLabel ι} (h : TokenInv cfg table ts S) (hstep : AuthStep cfg S l S')
    (hnodup : (drawn cfg table (ts ++ [⟨S, l, S'⟩])).Nodup) :
    TokenInv cfg table (ts ++ [⟨S, l, S'⟩]) S' := by
  have hinv := inv_step h.inv hstep
  rcases authStep_cases hstep with ⟨i, call, request, rfl, hcall, -, -, rfl⟩ | ⟨i, event, rfl, hadvance⟩
  · refine h.of_same hinv rfl ?_ hnodup fun j e he => ?_
    · rintro _ _ ⟨_, hlabel, -⟩
      cases hlabel
    · rcases mem_put he with ⟨-, rfl⟩ | ⟨-, he⟩
      · refine .inr ?_
        show request.newHashes = ((call.request cfg).map SessionRequest.newHashes).getD []
        rw [hcall]
        rfl
      · exact .inl ⟨e, he, rfl⟩
  · obtain ⟨request, phase, hi, -, ⟨rows, rfl, hcommit⟩ | ⟨-, hstatement⟩⟩ := advance_cases hadvance
    · rcases hcommit with ⟨table', hok, rfl, rfl⟩ | ⟨cause, -, rfl, rfl⟩
      · exact h.commit hi hok rfl rfl
      · refine h.of_same hinv rfl ?_ hnodup fun j e he => .inl ⟨e, (mem_finish he).2, rfl⟩
        rintro _ _ ⟨_, hlabel, -⟩
        cases hlabel
    · rcases hstatement with ⟨phase', -, rfl, rfl⟩ | ⟨cause, -, rfl, rfl⟩
      · refine h.of_same hinv rfl ?_ hnodup fun j e he => ?_
        · rintro _ _ ⟨_, hlabel, -⟩
          cases hlabel
        · rcases mem_put he with ⟨rfl, rfl⟩ | ⟨-, he⟩
          · exact .inl ⟨_, hi, rfl⟩
          · exact .inl ⟨e, he, rfl⟩
      · refine h.of_same hinv rfl ?_ hnodup fun j e he => .inl ⟨e, (mem_finish he).2, rfl⟩
        rintro _ _ ⟨_, hlabel, -⟩
        cases hlabel

/-- **A whole run** keeps the invariant of tokens. -/
theorem tokenInv_run (hvalid : ValidSessions table)
    (hrun : Run (AuthStep cfg) (AuthSystem.start table) ts S)
    (hnodup : (drawn cfg table ts).Nodup) : TokenInv cfg table ts S := by
  induction hrun with
  | refl => exact tokenInv_start hvalid hnodup
  | @snoc m S' ts l hr hl ih =>
    have hprefix : (drawn cfg table ts).Nodup := by
      rw [drawn_snoc] at hnodup
      exact (List.nodup_append.mp hnodup).1
    exact (ih hprefix).step hl hnodup

end Steps

/-! ### Runs -/

theorem canActivate_spec {verify : String → Timestamp → Except HttpProblem AccessTokenClaims}
    {authorization : Option HeaderValue} {now checkedAt : Timestamp} {table : SessionTable}
    {db : IdentityDb} {session : ActiveSessionRecord}
    (hok : canActivate verify authorization now checkedAt table db = .ok session) :
    ∃ token claims, bearerToken authorization = .ok token ∧ verify token now = .ok claims ∧
      ∃ row ∈ table, row.id = claims.sessionId ∧ row.playerId = claims.playerId ∧
        row.Active checkedAt := by
  simp only [canActivate, bind_eq_ok] at hok
  obtain ⟨token, htoken, claims, hclaims, hok⟩ := hok
  refine ⟨token, claims, htoken, hclaims, ?_⟩
  split at hok
  swap
  · cases hok
  rename_i found hfound
  split at hok
  swap
  · cases hok
  rename_i hplayer
  unfold findActiveSession at hfound
  split at hfound
  · cases hfound
  rename_i row hrow
  obtain ⟨player, hfind, rfl⟩ := Option.map_eq_some_iff.mp hfound
  have hmatch := List.find?_some hrow
  have hjoin := List.find?_some hfind
  simp only [Bool.and_eq_true, decide_eq_true_eq] at hmatch hjoin
  exact ⟨row, List.mem_of_find?_eq_some hrow, hmatch.1, hjoin.symm.trans hplayer, hmatch.2⟩

/-- **Refresh tokens are spent once**, an open session has one token that can be accepted, and
access needs an open session: over every run of any number of connections. -/
theorem rotation_safe {ι : Type} [DecidableEq ι] [Fintype ι] {cfg : AuthConfig}
    {table : SessionTable} {ts : List (AuthTransition ι)} {S : AuthSystem ι}
    (hvalid : ValidSessions table) (hrun : Run (AuthStep cfg) (AuthSystem.start table) ts S)
    (hnodup : (drawn cfg table ts).Nodup) : RotationSafe table ts S := by
  have h := tokenInv_run hvalid hrun hnodup
  refine ⟨?_, fun time row hrow hactive => ?_, fun time row hrow hclosed hash hissued => ?_, ?_⟩
  · rintro before t after hash rfl haccepts t' ht' ⟨next, usedAt, id, rows, i, hlabel, hi⟩
    obtain ⟨us, vs, rfl⟩ := List.append_of_mem ht'
    have hsplit : before ++ t :: (us ++ t' :: vs) = (before ++ t :: us) ++ (t' :: vs) := by
      rw [List.append_assoc, List.cons_append]
    rw [hsplit] at hrun hnodup
    obtain ⟨m, hfirst, hrest⟩ := hrun.of_append
    obtain ⟨rfl, -, -⟩ := hrest.of_cons
    have hprefix : (drawn cfg table (before ++ t :: us)).Nodup := by
      rw [drawn_append] at hnodup
      exact (List.nodup_append.mp hnodup).1
    have hmid := tokenInv_run hvalid hfirst hprefix
    -- the row that the second rotation holds would have the spent token
    have hspent := hmid.accepted t (List.mem_append_right _ List.mem_cons_self) hash haccepts
    obtain ⟨row, hrow, -, hmatch, -⟩ := hmid.inv.holds i _ hi id List.mem_cons_self
    exact hspent.rows row hrow hmatch.1
  · refine ⟨row.refreshTokenHash, ⟨h.row_issued row hrow, row, hrow, rfl, hactive⟩, ?_⟩
    rintro hash ⟨hissued, row', hrow', rfl, -⟩
    rcases h.issued row.id _ hissued with ⟨row'', hrow'', hid, hhash⟩ | hspent
    · rw [← hhash, Table.eq_of_key hrow'' hrow hid]
    · exact absurd rfl (hspent.rows row' hrow')
  · rintro ⟨row', hrow', rfl, hactive⟩
    rcases h.issued row.id _ hissued with ⟨row'', hrow'', hid, hhash⟩ | hspent
    · have hsame := h.unique row'' hrow'' row' hrow' hhash
      rw [Table.eq_of_key hrow'' hrow hid] at hsame
      rw [← hsame] at hactive
      exact hclosed hactive
    · exact hspent.rows row' hrow' rfl
  · exact fun verify authorization now checkedAt db session hok => canActivate_spec hok

/-- A login, and two refreshes of its token side by side: the second finds nothing. -/
def twoRefreshes : List (AuthLabel Bool) :=
  [.start false (exampleLogin ⟨⟨10⟩, "hash10"⟩ 1000), .step false .statement, .step false .statement,
    .step false .statement, .step false .commit,
    .start false (.refresh "hash10" "hash11" 2000), .start true (.refresh "hash10" "hash12" 2000),
    .step false .statement, .step true .statement, .step false .statement, .step false .statement,
    .step false .commit, .step true .statement, .step true .commit]

theorem rotation_safe_twoRefreshes :
    ∃ ts S, Run (AuthStep exampleAuthConfig) (AuthSystem.start .empty) ts S ∧
      ts.map Transition.label = twoRefreshes ∧ RotationSafe .empty ts S := by
  obtain ⟨ts, S, hrun, hlabels⟩ := @scheduled_run twoRefreshes (by decide +kernel)
  have hnodup : (drawn exampleAuthConfig .empty ts).Nodup := by
    rw [drawn_eq, hlabels]
    decide +kernel
  exact ⟨ts, S, hrun, hlabels, rotation_safe valid_empty hrun hnodup⟩

end HiveChameleon.Auth
