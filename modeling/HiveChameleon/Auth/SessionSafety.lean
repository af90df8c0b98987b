import HiveChameleon.Auth.Transactions

/-!
# Auth.SessionSafety — one open session per player, and when a login commits

The unique index keeps one open session per player in every run.  A login aborts in three cases:
an open session is newer than the login's clock, the login is a Google login of a player whose keys
the platform does not hold, or another login committed after this one looked for open sessions.
Outside them every login commits and leaves its own session as the only open one.
-/

namespace HiveChameleon.Auth

open Gateway Lib
open Provisioning (HiveControlState)

/-- Two open sessions of a player are the same row: `uq_auth_session_one_open_per_player`. -/
def OneOpen (table : SessionTable) : Prop :=
  ∀ player, ∀ a ∈ table, ∀ b ∈ table, a.OpenFor player → b.OpenFor player → a = b

/-- The constraints of the stored rows. -/
structure ValidSessions (table : SessionTable) : Prop where
  one_open : OneOpen table
  checks : ∀ row ∈ table, authSessionChecks row = .ok ()

/-! ### The checks -/

section Checks

theorem authSessionChecks_eq_ok {row : AuthSessionRow} :
    authSessionChecks row = .ok () ↔
      ((row.custodialSigningEligible = true ∧
          (row.hiveSigningProvider = none ∨ row.hiveSigningProvider = some .custodialService) ∧
            row.hiveControlStateAtIssue = .platformCustodial) ∨
        (row.custodialSigningEligible = false ∧
          row.hiveSigningProvider ≠ some .custodialService)) ∧
      row.issuedAt < row.expiresAt ∧
      (row.authenticationMethod = .googleOidc → row.externalIdentityId ≠ none) ∧
      ∀ revokedAt ∈ row.revokedAt, row.issuedAt ≤ revokedAt := by
  simp only [authSessionChecks, bind_eq_ok, exists_unit, require_eq_ok]

theorem checks_assignment {request : SessionRequest} {row : AuthSessionRow}
    (hchecks : authSessionChecks row = .ok ()) :
    authSessionChecks (request.assignment row) = .ok () ↔
      ∀ revokedAt ∈ request.revokedAt, row.issuedAt ≤ revokedAt := by
  obtain ⟨hsigner, hexpiry, hgoogle, hrevoked⟩ := authSessionChecks_eq_ok.mp hchecks
  rw [authSessionChecks_eq_ok]
  cases request with
  | createSession session =>
    constructor
    · exact fun h => h.2.2.2
    · exact fun h => ⟨hsigner, hexpiry, hgoogle, h⟩
  | rotateSession current next usedAt =>
    constructor
    · exact fun _ _ hnone => absurd hnone (by simp [SessionRequest.revokedAt])
    · exact fun _ => ⟨hsigner, hexpiry, hgoogle, hrevoked⟩
  | revokeSession id revokedAt reason =>
    constructor
    · exact fun h => h.2.2.2
    · exact fun h => ⟨hsigner, hexpiry, hgoogle, h⟩

/-- A session that the service makes passes its checks unless a Google login of a player whose keys
the platform does not hold made it. -/
theorem checks_row_of_request {cfg : AuthConfig} {call : ServiceCall} {session : NewSession}
    (hcall : call.request cfg = some (.createSession session)) :
    authSessionChecks session.row = .ok () ↔
      (session.authenticationMethod = .googleOidc →
        session.player.hiveControlState = .platformCustodial) := by
  have hpositive : (0 : ℤ) < cfg.refreshTokenTtlSeconds * 1000 := by
    have := cfg.bounded.1
    omega
  rw [authSessionChecks_eq_ok]
  cases call with
  | createHiveSession draw challenge verified player provider now =>
    simp only [ServiceCall.request, AuthService.createHiveSession] at hcall
    cases challenge with
    | none => cases hcall
    | some challenge =>
      cases verified with
      | false => cases hcall
      | true =>
        obtain rfl := SessionRequest.createSession.inj (Option.some.inj hcall)
        refine ⟨fun _ hgoogle => ?_, fun _ => ⟨.inr ⟨rfl, ?_⟩, ?_, ?_, ?_⟩⟩
        · cases hgoogle
        · exact fun h => by cases h
        · exact Int.lt_add_of_pos_right now hpositive
        · exact fun h => by cases h
        · exact fun _ h => by cases h
  | exchangeGoogle draw platform identity now =>
    simp only [ServiceCall.request, AuthService.exchangeGoogle] at hcall
    by_cases hdisabled : identity.status = .disabled
    · rw [if_pos hdisabled] at hcall
      cases hcall
    rw [if_neg hdisabled] at hcall
    cases hplayer : identity.player with
    | none =>
      rw [hplayer] at hcall
      cases hcall
    | some player =>
      rw [hplayer] at hcall
      obtain rfl := SessionRequest.createSession.inj (Option.some.inj hcall)
      show (((decide _ = true ∧ _ ∧ _) ∨ (decide _ = false ∧ _)) ∧ _) ↔ _
      constructor
      · rintro ⟨⟨-, -, hstate⟩ | ⟨-, hprovider⟩, -⟩ _
        · exact hstate
        · exact absurd rfl hprovider
      · intro h
        have hstate : player.hiveControlState = .platformCustodial := h rfl
        refine ⟨.inl ⟨decide_eq_true hstate, .inr rfl, hstate⟩, ?_, ?_, ?_⟩
        · exact Int.lt_add_of_pos_right now hpositive
        · exact fun _ h => by cases h
        · exact fun _ h => by cases h
  | refresh current next now => cases hcall
  | revokeSession id now => cases hcall

end Checks

/-! ### The statements -/

section Statements

variable {request : SessionRequest} {table table' : SessionTable} {seen rows : List Uuid}

theorem lockRows_spec (hvalid : ValidSessions table) (hok : request.lockRows seen table = .ok rows) :
    ∀ id ∈ rows, id ∈ seen ∧ ∃ row ∈ table, row.id = id ∧ request.Matches row ∧
      authSessionChecks (request.assignment row) = .ok () := by
  have hfound : ∀ id ∈ (table.rows.filter fun row => row.id ∈ seen ∧ request.Matches row).map (·.id),
      ∃ row ∈ table, row.id = id ∧ row.id ∈ seen ∧ request.Matches row := by
    intro id hid
    obtain ⟨row, hrow, rfl⟩ := List.mem_map.mp hid
    obtain ⟨hrow, hmatch⟩ := List.mem_filter.mp hrow
    exact ⟨row, hrow, rfl, of_decide_eq_true hmatch⟩
  cases request with
  | rotateSession current next usedAt =>
    obtain rfl := Except.ok.inj hok
    intro id hid
    obtain ⟨row, hrow, rfl, hseen, hmatch⟩ := hfound id hid
    refine ⟨hseen, row, hrow, rfl, hmatch, (checks_assignment (hvalid.checks row hrow)).mpr ?_⟩
    exact fun _ h => absurd h (by simp [SessionRequest.revokedAt])
  | createSession session =>
    simp only [SessionRequest.lockRows, bind_eq_ok, exists_unit, checkAll_eq_ok, pure_eq_ok] at hok
    obtain ⟨hchecks, rfl⟩ := hok
    intro id hid
    obtain ⟨row, hrow, rfl, hseen, hmatch⟩ := hfound id hid
    exact ⟨hseen, row, hrow, rfl, hmatch,
      hchecks row (List.mem_filter.mpr ⟨hrow, decide_eq_true ⟨hseen, hmatch⟩⟩)⟩
  | revokeSession sessionId revokedAt reason =>
    simp only [SessionRequest.lockRows, bind_eq_ok, exists_unit, checkAll_eq_ok, pure_eq_ok] at hok
    obtain ⟨hchecks, rfl⟩ := hok
    intro id hid
    obtain ⟨row, hrow, rfl, hseen, hmatch⟩ := hfound id hid
    exact ⟨hseen, row, hrow, rfl, hmatch,
      hchecks row (List.mem_filter.mpr ⟨hrow, decide_eq_true ⟨hseen, hmatch⟩⟩)⟩

/-- **A first statement** succeeds when no row that it closes is newer than its clock. -/
theorem lockRows_ok_iff (hvalid : ValidSessions table) :
    (∃ rows, request.lockRows seen table = .ok rows) ↔
      ∀ revokedAt ∈ request.revokedAt, ∀ row ∈ table, row.id ∈ seen → request.Matches row →
        row.issuedAt ≤ revokedAt := by
  have hall : (∀ row ∈ table.rows.filter (fun row => row.id ∈ seen ∧ request.Matches row),
        authSessionChecks (request.assignment row) = .ok ()) ↔
      ∀ revokedAt ∈ request.revokedAt, ∀ row ∈ table, row.id ∈ seen → request.Matches row →
        row.issuedAt ≤ revokedAt := by
    constructor
    · intro h revokedAt hrevoked row hrow hseen hmatch
      exact (checks_assignment (hvalid.checks row hrow)).mp
        (h row (List.mem_filter.mpr ⟨hrow, decide_eq_true ⟨hseen, hmatch⟩⟩)) revokedAt hrevoked
    · intro h row hrow
      obtain ⟨hin, hp⟩ := List.mem_filter.mp hrow
      obtain ⟨hseen, hmatch⟩ := of_decide_eq_true hp
      exact (checks_assignment (hvalid.checks row hin)).mpr
        fun revokedAt hrevoked => h revokedAt hrevoked row hin hseen hmatch
  rw [← hall]
  cases request with
  | rotateSession current next usedAt =>
    refine ⟨fun _ row hrow => ?_, fun _ => ⟨_, rfl⟩⟩
    refine (checks_assignment (hvalid.checks row (List.mem_filter.mp hrow).1)).mpr ?_
    exact fun _ h => absurd h (by simp [SessionRequest.revokedAt])
  | createSession session =>
    simp only [SessionRequest.lockRows, bind_eq_ok, exists_unit, checkAll_eq_ok, pure_eq_ok,
      exists_and_left, exists_eq', and_true]
  | revokeSession sessionId revokedAt reason =>
    simp only [SessionRequest.lockRows, bind_eq_ok, exists_unit, checkAll_eq_ok, pure_eq_ok,
      exists_and_left, exists_eq', and_true]

theorem insertSession_eq_ok {session : NewSession} :
    insertSession session rows table = .ok () ↔
      authSessionChecks session.row = .ok () ∧ (∀ row ∈ table, row.id ≠ session.id) ∧
        (∀ row ∈ table, row.refreshTokenHash ≠ session.refreshTokenHash) ∧
        ∀ row ∈ table, row.OpenFor session.player.id → row.id ∈ rows := by
  simp only [insertSession, bind_eq_ok, exists_unit, require_eq_ok, Table.mem_rows]

/-- What a committed table holds: rows that the transaction changed, rows that it left alone, and
the row that it inserted. -/
theorem mem_commit (hok : request.commit rows table = .ok table') {row : AuthSessionRow} :
    row ∈ table' ↔ (∃ old ∈ table, old.id ∈ rows ∧ request.assignment old = row) ∨
      (row ∈ table ∧ row.id ∉ rows) ∨ ∃ session, request = .createSession session ∧
        row = session.row := by
  have hmodify : row ∈ table.modify (fun row => row.id ∈ rows) request.assignment ↔
      (∃ old ∈ table, old.id ∈ rows ∧ request.assignment old = row) ∨
        (row ∈ table ∧ row.id ∉ rows) := by
    constructor
    · exact Table.mem_modify_cases
    · rintro (⟨old, hold, hin, rfl⟩ | ⟨hrow, hout⟩)
      · exact Table.mem_modify_of hold hin
      · exact Table.mem_modify_of_not hrow hout
  cases request with
  | createSession session =>
    obtain ⟨-, hrows⟩ := Table.insert_eq_ok.mp hok
    rw [Table.mem_def, hrows, List.mem_append, List.mem_singleton, Table.mem_rows, hmodify, or_assoc]
    refine or_congr_right (or_congr_right ⟨fun h => ⟨session, rfl, h⟩, ?_⟩)
    rintro ⟨session', heq, h⟩
    rwa [SessionRequest.createSession.inj heq]
  | rotateSession current next usedAt =>
    obtain rfl := Except.ok.inj hok
    rw [hmodify]
    refine or_congr_right ⟨.inl, ?_⟩
    rintro (h | ⟨_, heq, -⟩)
    · exact h
    · cases heq
  | revokeSession sessionId revokedAt reason =>
    obtain rfl := Except.ok.inj hok
    rw [hmodify]
    refine or_congr_right ⟨.inl, ?_⟩
    rintro (h | ⟨_, heq, -⟩)
    · exact h
    · cases heq

/-- A row that stays open under an `UPDATE` was rotated, and was open before. -/
theorem openFor_assignment {row : AuthSessionRow} {player : Uuid}
    (h : (request.assignment row).OpenFor player) :
    row.OpenFor player ∧ ∀ session, request ≠ .createSession session := by
  cases request with
  | createSession session => cases h.2
  | rotateSession current next usedAt => exact ⟨h, fun _ heq => by cases heq⟩
  | revokeSession sessionId revokedAt reason => cases h.2

end Statements

/-! ### The invariant -/

/-- The invariant of the transactions. -/
structure Inv {ι : Type} (cfg : AuthConfig) (S : AuthSystem ι) : Prop where
  valid : ValidSessions S.authSession
  call : ∀ i, ∀ e ∈ S.requests i, ∃ call : ServiceCall, call.request cfg = some e.1
  unused : ∀ i, ∀ e ∈ S.requests i, Unused S i e.1
  /-- The rows that a transaction holds are as its first statement found them. -/
  holds : ∀ i, ∀ e ∈ S.requests i, ∀ id ∈ e.2.rows, ∃ row ∈ S.authSession, row.id = id ∧
    e.1.Matches row ∧ authSessionChecks (e.1.assignment row) = .ok ()
  exclusive : ∀ i j id, i ≠ j → S.Holds i id → ¬ S.Holds j id
  /-- A transaction that inserted a session holds every other open session of the player. -/
  inserted : ∀ i session rows, S.requests i = some (.createSession session, .written rows) →
    authSessionChecks session.row = .ok () ∧
      ∀ row ∈ S.authSession, row.OpenFor session.player.id → row.id ∈ rows
  inserts_once : ∀ i j player, i ≠ j → S.Inserts i player → ¬ S.Inserts j player

section Invariant

variable {ι : Type} {cfg : AuthConfig} {S : AuthSystem ι} {i : ι}
variable {request : SessionRequest} {phase : Phase}

theorem inv_start {table : SessionTable} (h : ValidSessions table) :
    Inv cfg (AuthSystem.start table : AuthSystem ι) where
  valid := h
  call _ _ he := by cases he
  unused _ _ he := by cases he
  holds _ _ he := by cases he
  exclusive := by
    rintro _ _ _ - ⟨_, he, -⟩
    cases he
  inserted _ _ _ h := by cases h
  inserts_once := by
    rintro _ _ _ - ⟨_, he, -⟩
    cases he

theorem Unused.not_mem (h : Unused S i request) {j : ι} (hij : j ≠ i) {e : SessionRequest × Phase}
    (he : e ∈ S.requests j) :
    (∀ id ∈ e.1.newIds, id ∉ request.newIds) ∧ ∀ hash ∈ e.1.newHashes, hash ∉ request.newHashes :=
  ⟨fun id hid hid' => (h.1 id hid').2 j hij e he hid,
    fun hash hhash hhash' => (h.2 hash hhash').2 j hij e he hhash⟩

theorem openFor_of_commit (h : Inv cfg S) {rows : List Uuid} {table' : SessionTable}
    (hi : S.requests i = some (request, .written rows))
    (hok : request.commit rows S.authSession = .ok table') {row : AuthSessionRow} {player : Uuid}
    (hrow : row ∈ table') (hopen : row.OpenFor player) :
    (∃ session, request = .createSession session ∧ row = session.row ∧ player = session.player.id) ∨
      (∀ session, request = .createSession session → player ≠ session.player.id) ∧
        ∃ old ∈ S.authSession, old.OpenFor player ∧
          row = Table.updated (fun row => row.id ∈ rows) request.assignment old := by
  have hfree : ∀ old ∈ S.authSession, old.OpenFor player → old.id ∉ rows →
      ∀ session, request = .createSession session → player ≠ session.player.id := by
    rintro old hold hopen' hout session rfl rfl
    exact hout ((h.inserted i session rows hi).2 old hold hopen')
  rcases (mem_commit hok).mp hrow with ⟨old, hold, hin, rfl⟩ | ⟨hin, hout⟩ | ⟨session, rfl, rfl⟩
  · obtain ⟨hopen', hrequest⟩ := openFor_assignment hopen
    refine .inr ⟨fun session heq => absurd heq (hrequest session), old, hold, hopen', ?_⟩
    exact (Table.updated_of (p := fun row : AuthSessionRow => row.id ∈ rows) hin).symm
  · refine .inr ⟨hfree row hin hopen hout, row, hin, hopen, ?_⟩
    exact (Table.updated_of_not (p := fun row : AuthSessionRow => row.id ∈ rows) hout).symm
  · exact .inl ⟨session, rfl, rfl, hopen.1.symm⟩

variable [DecidableEq ι]

/-- The transactions of the others, and the new one of `i`. -/
theorem mem_put {j : ι} {e : SessionRequest × Phase} (h : e ∈ (S.put i request phase).requests j) :
    j = i ∧ e = (request, phase) ∨ j ≠ i ∧ e ∈ S.requests j := by
  by_cases hij : j = i
  · subst hij
    refine .inl ⟨rfl, ?_⟩
    rw [AuthSystem.put_requests, Function.update_self] at h
    exact (Option.some.inj h).symm
  · refine .inr ⟨hij, ?_⟩
    rwa [AuthSystem.put_requests, Function.update_of_ne hij] at h

theorem mem_finish {table : SessionTable} {j : ι} {e : SessionRequest × Phase}
    (h : e ∈ (S.finish i table).requests j) : j ≠ i ∧ e ∈ S.requests j := by
  by_cases hij : j = i
  · subst hij
    rw [AuthSystem.finish_requests, Function.update_self] at h
    cases h
  · rw [AuthSystem.finish_requests, Function.update_of_ne hij] at h
    exact ⟨hij, h⟩

/-- **A transaction gets to a phase**: what the phase needs, and the others stay as they are. -/
theorem Inv.put (h : Inv cfg S) (hcall : ∃ call : ServiceCall, call.request cfg = some request)
    (hunused : Unused S i request)
    (hholds : ∀ id ∈ phase.rows, (∃ row ∈ S.authSession, row.id = id ∧ request.Matches row ∧
      authSessionChecks (request.assignment row) = .ok ()) ∧ ∀ j, j ≠ i → ¬ S.Holds j id)
    (hinserted : ∀ session rows, request = .createSession session → phase = .written rows →
      authSessionChecks session.row = .ok () ∧
        (∀ row ∈ S.authSession, row.OpenFor session.player.id → row.id ∈ rows) ∧
        ∀ j, j ≠ i → ¬ S.Inserts j session.player.id) :
    Inv cfg (S.put i request phase) := by
  have hothers : ∀ {j id}, (S.put i request phase).Holds j id →
      j = i ∧ id ∈ phase.rows ∨ j ≠ i ∧ S.Holds j id := by
    rintro j id ⟨e, he, hid⟩
    rcases mem_put he with ⟨hij, rfl⟩ | ⟨hij, he⟩
    · exact .inl ⟨hij, hid⟩
    · exact .inr ⟨hij, e, he, hid⟩
  have hplayers : ∀ {j player}, (S.put i request phase).Inserts j player →
      j = i ∧ request.insertedFor phase = some player ∨ j ≠ i ∧ S.Inserts j player := by
    rintro j player ⟨e, he, hp⟩
    rcases mem_put he with ⟨hij, rfl⟩ | ⟨hij, he⟩
    · exact .inl ⟨hij, hp⟩
    · exact .inr ⟨hij, e, he, hp⟩
  have halone : ∀ player, request.insertedFor phase = some player →
      ∀ j, j ≠ i → ¬ S.Inserts j player := by
    intro player hp
    cases request with
    | createSession session =>
      cases phase with
      | written rows =>
        obtain rfl := Option.some.inj hp
        exact (hinserted session rows rfl rfl).2.2
      | begun => cases hp
      | scanned seen => cases hp
      | held rows => cases hp
    | rotateSession current next usedAt => cases phase <;> cases hp
    | revokeSession sessionId revokedAt reason => cases phase <;> cases hp
  refine ⟨h.valid, fun j e he => ?_, fun j e he => ?_, fun j e he => ?_, fun j k id hjk hj hk => ?_,
    fun j session rows he => ?_, fun j k player hjk hj hk => ?_⟩
  · rcases mem_put he with ⟨-, rfl⟩ | ⟨-, he⟩
    · exact hcall
    · exact h.call j e he
  · rcases mem_put he with ⟨rfl, rfl⟩ | ⟨hij, he⟩
    · refine ⟨fun id hid => ⟨(hunused.1 id hid).1, fun k hk e' he' => ?_⟩,
        fun hash hhash => ⟨(hunused.2 hash hhash).1, fun k hk e' he' => ?_⟩⟩
      · rcases mem_put he' with ⟨rfl, -⟩ | ⟨-, he'⟩
        · exact absurd rfl hk
        · exact (hunused.1 id hid).2 k hk e' he'
      · rcases mem_put he' with ⟨rfl, -⟩ | ⟨-, he'⟩
        · exact absurd rfl hk
        · exact (hunused.2 hash hhash).2 k hk e' he'
    · have hj := h.unused j e he
      obtain ⟨hids, hhashes⟩ := hunused.not_mem hij he
      refine ⟨fun id hid => ⟨(hj.1 id hid).1, fun k hk e' he' => ?_⟩,
        fun hash hhash => ⟨(hj.2 hash hhash).1, fun k hk e' he' => ?_⟩⟩
      · rcases mem_put he' with ⟨-, rfl⟩ | ⟨-, he'⟩
        · exact hids id hid
        · exact (hj.1 id hid).2 k hk e' he'
      · rcases mem_put he' with ⟨-, rfl⟩ | ⟨-, he'⟩
        · exact hhashes hash hhash
        · exact (hj.2 hash hhash).2 k hk e' he'
  · rcases mem_put he with ⟨-, rfl⟩ | ⟨-, he⟩
    · exact fun id hid => (hholds id hid).1
    · exact h.holds j e he
  · rcases hothers hj with ⟨rfl, hid⟩ | ⟨hji, hj'⟩
    · rcases hothers hk with ⟨rfl, -⟩ | ⟨hki, hk⟩
      · exact hjk rfl
      · exact (hholds id hid).2 k hki hk
    · rcases hothers hk with ⟨rfl, hid⟩ | ⟨-, hk⟩
      · exact (hholds id hid).2 j hji hj'
      · exact h.exclusive j k id hjk hj' hk
  · rcases mem_put he with ⟨-, heq⟩ | ⟨-, he⟩
    · obtain ⟨hrequest, hphase⟩ := Prod.mk.inj heq
      obtain ⟨hchecks, hall, -⟩ := hinserted session rows hrequest.symm hphase.symm
      exact ⟨hchecks, hall⟩
    · exact h.inserted j session rows he
  · rcases hplayers hj with ⟨rfl, hp⟩ | ⟨hji, hj'⟩
    · rcases hplayers hk with ⟨rfl, -⟩ | ⟨hki, hk⟩
      · exact hjk rfl
      · exact halone player hp k hki hk
    · rcases hplayers hk with ⟨rfl, hp⟩ | ⟨-, hk⟩
      · exact halone player hp j hji hj'
      · exact h.inserts_once j k player hjk hj' hk

/-- **A transaction is rolled back**. -/
theorem Inv.abort (h : Inv cfg S) : Inv cfg (S.finish i S.authSession) where
  valid := h.valid
  call j e he := h.call j e (mem_finish he).2
  unused j e he := by
    have hj := h.unused j e (mem_finish he).2
    exact ⟨fun id hid => ⟨(hj.1 id hid).1, fun k hk e' he' => (hj.1 id hid).2 k hk e' (mem_finish he').2⟩,
      fun hash hhash => ⟨(hj.2 hash hhash).1,
        fun k hk e' he' => (hj.2 hash hhash).2 k hk e' (mem_finish he').2⟩⟩
  holds j e he := h.holds j e (mem_finish he).2
  exclusive := by
    rintro j k id hjk ⟨e, he, hid⟩ ⟨e', he', hid'⟩
    exact h.exclusive j k id hjk ⟨e, (mem_finish he).2, hid⟩ ⟨e', (mem_finish he').2, hid'⟩
  inserted j session rows he := h.inserted j session rows (mem_finish he).2
  inserts_once := by
    rintro j k player hjk ⟨e, he, hp⟩ ⟨e', he', hp'⟩
    exact h.inserts_once j k player hjk ⟨e, (mem_finish he).2, hp⟩ ⟨e', (mem_finish he').2, hp'⟩

/-- **A transaction commits**. -/
theorem Inv.commit (h : Inv cfg S) {rows : List Uuid} {table' : SessionTable}
    (hi : S.requests i = some (request, .written rows))
    (hok : request.commit rows S.authSession = .ok table') : Inv cfg (S.finish i table') := by
  have hunused : Unused S i request := h.unused i _ hi
  have hnot : ∀ {j e}, j ≠ i → e ∈ S.requests j → ∀ id ∈ e.2.rows, id ∉ rows := by
    intro j e hij he id hid hin
    exact h.exclusive j i id hij ⟨e, he, hid⟩ ⟨_, hi, hin⟩
  have hdraw : ∀ {j e}, j ≠ i → e ∈ S.requests j → (∀ id ∈ e.1.newIds, ∀ row ∈ table', row.id ≠ id) ∧
      ∀ hash ∈ e.1.newHashes, ∀ row ∈ table', row.refreshTokenHash ≠ hash := by
    intro j e hij he
    have hj := h.unused j e he
    obtain ⟨hids, hhashes⟩ := hunused.not_mem hij he
    constructor
    · rintro id hid row hrow rfl
      rcases (mem_commit hok).mp hrow with ⟨old, hold, -, rfl⟩ | ⟨hin, -⟩ | ⟨session, rfl, rfl⟩
      · exact (hj.1 _ hid).1 old hold (request.assignment.keeps old).symm
      · exact (hj.1 _ hid).1 row hin rfl
      · exact hids _ hid (List.mem_singleton_self _)
    · rintro hash hhash row hrow rfl
      rcases (mem_commit hok).mp hrow with ⟨old, hold, -, rfl⟩ | ⟨hin, -⟩ | ⟨session, rfl, rfl⟩
      · cases request with
        | createSession session => exact (hj.2 _ hhash).1 old hold rfl
        | rotateSession current next usedAt => exact hhashes _ hhash (List.mem_singleton_self _)
        | revokeSession sessionId revokedAt reason => exact (hj.2 _ hhash).1 old hold rfl
      · exact (hj.2 _ hhash).1 row hin rfl
      · exact hhashes _ hhash (List.mem_singleton_self _)
  refine ⟨⟨fun player a ha b hb hopen hopen' => ?_, fun row hrow => ?_⟩, fun j e he => ?_,
    fun j e he => ?_, fun j e he => ?_, fun j k id hjk => ?_, fun j session rows' he => ?_,
    fun j k player hjk => ?_⟩
  · rcases openFor_of_commit h hi hok ha hopen with ⟨session, rfl, rfl, rfl⟩ | ⟨hfree, old, hold, hold', rfl⟩
    · rcases openFor_of_commit h hi hok hb hopen' with ⟨session', heq, rfl, -⟩ | ⟨hfree, -⟩
      · rw [SessionRequest.createSession.inj heq]
      · exact absurd rfl (hfree session rfl)
    · rcases openFor_of_commit h hi hok hb hopen' with ⟨session, rfl, -, rfl⟩ | ⟨-, old', hin', hopen'', rfl⟩
      · exact absurd rfl (hfree session rfl)
      · rw [h.valid.one_open player old hold old' hin' hold' hopen'']
  · rcases (mem_commit hok).mp hrow with ⟨old, hold, hin, rfl⟩ | ⟨hin, -⟩ | ⟨session, rfl, rfl⟩
    · obtain ⟨row', hrow', hid, -, hchecks⟩ := h.holds i _ hi old.id hin
      rwa [← Table.eq_of_key hrow' hold hid]
    · exact h.valid.checks row hin
    · exact (h.inserted i session rows hi).1
  · exact h.call j e (mem_finish he).2
  · obtain ⟨hij, he⟩ := mem_finish he
    have hj := h.unused j e he
    obtain ⟨hids, hhashes⟩ := hdraw hij he
    exact ⟨fun id hid => ⟨hids id hid, fun k hk e' he' => (hj.1 id hid).2 k hk e' (mem_finish he').2⟩,
      fun hash hhash => ⟨hhashes hash hhash,
        fun k hk e' he' => (hj.2 hash hhash).2 k hk e' (mem_finish he').2⟩⟩
  · obtain ⟨hij, he⟩ := mem_finish he
    intro id hid
    obtain ⟨row, hrow, rfl, hrest⟩ := h.holds j e he id hid
    exact ⟨row, (mem_commit hok).mpr (.inr (.inl ⟨hrow, hnot hij he row.id hid⟩)), rfl, hrest⟩
  · rintro ⟨e, he, hid⟩ ⟨e', he', hid'⟩
    exact h.exclusive j k id hjk ⟨e, (mem_finish he).2, hid⟩ ⟨e', (mem_finish he').2, hid'⟩
  · obtain ⟨hij, he⟩ := mem_finish he
    obtain ⟨hchecks, hall⟩ := h.inserted j session rows' he
    refine ⟨hchecks, fun row hrow hopen => ?_⟩
    rcases openFor_of_commit h hi hok hrow hopen with ⟨session', rfl, -, hplayer⟩ | ⟨-, old, hold, hopen', rfl⟩
    · refine absurd ⟨_, hi, rfl⟩ (h.inserts_once j i session'.player.id hij ⟨_, he, ?_⟩)
      exact congrArg some hplayer
    · rw [Table.key_updated (p := fun row : AuthSessionRow => row.id ∈ rows) (f := request.assignment)]
      exact hall old hold hopen'
  · rintro ⟨e, he, hp⟩ ⟨e', he', hp'⟩
    exact h.inserts_once j k player hjk ⟨e, (mem_finish he).2, hp⟩ ⟨e', (mem_finish he').2, hp'⟩

end Invariant

/-! ### Steps -/

/-- **In order**: the rows that a statement closes are not newer than its clock; and when a session
is inserted, a Google login is one of a player whose keys the platform holds, and every open session
of the player is one that the transaction has closed. -/
def InOrder (table : SessionTable) (request : SessionRequest) : Phase → Prop
  | .begun => True
  | .scanned seen => ∀ revokedAt ∈ request.revokedAt, ∀ row ∈ table, row.id ∈ seen →
      request.Matches row → row.issuedAt ≤ revokedAt
  | .held rows => ∀ session, request = .createSession session →
      (session.authenticationMethod = .googleOidc →
        session.player.hiveControlState = .platformCustodial) ∧
      ∀ row ∈ table, row.OpenFor session.player.id → row.id ∈ rows
  | .written _ => True

section Steps

variable {ι : Type} {cfg : AuthConfig} {S S' : AuthSystem ι} {i : ι}
variable {request : SessionRequest} {phase phase' : Phase}

theorem afterLock_rows (request : SessionRequest) (rows : List Uuid) :
    (request.afterLock rows).rows = rows := by
  cases request with
  | createSession session => rfl
  | rotateSession current next usedAt => cases rows <;> rfl
  | revokeSession sessionId revokedAt reason => rfl

theorem secondStatement_eq_ok (h : Inv cfg S) {rows : List Uuid}
    (hi : S.requests i = some (request, .held rows)) :
    request.secondStatement rows S.authSession = .ok () ↔
      InOrder S.authSession request (.held rows) := by
  obtain ⟨call, hcall⟩ := h.call i _ hi
  have hunused : Unused S i request := h.unused i _ hi
  cases request with
  | createSession session =>
    have hid := (hunused.1 session.id (List.mem_singleton_self _)).1
    have hhash := (hunused.2 session.refreshTokenHash (List.mem_singleton_self _)).1
    show insertSession session rows S.authSession = .ok () ↔ _
    rw [insertSession_eq_ok, checks_row_of_request hcall]
    constructor
    · rintro ⟨hsigner, -, -, hopen⟩ session' heq
      obtain rfl := SessionRequest.createSession.inj heq
      exact ⟨hsigner, hopen⟩
    · intro hall
      obtain ⟨hsigner, hopen⟩ := hall session rfl
      exact ⟨hsigner, hid, hhash, hopen⟩
  | rotateSession current next usedAt =>
    have hhash := (hunused.2 next (List.mem_singleton_self _)).1
    refine ⟨fun _ session heq => (by cases heq), fun _ => ?_⟩
    simp only [SessionRequest.secondStatement, rotateRow, bind_eq_ok, exists_unit, checkAll_eq_ok,
      require_eq_ok]
    refine ⟨fun row hrow => ?_, fun row hrow _ => hhash row hrow⟩
    refine (checks_assignment (h.valid.checks row (List.mem_filter.mp hrow).1)).mpr ?_
    exact fun _ hnone => absurd hnone (by simp [SessionRequest.revokedAt])
  | revokeSession sessionId revokedAt reason =>
    exact ⟨fun _ session heq => (by cases heq), fun _ => rfl⟩

/-- **A statement succeeds exactly when it is in order**. -/
theorem statement_ok_iff (h : Inv cfg S) (hi : S.requests i = some (request, phase)) :
    (∃ phase', request.statement S.authSession phase = .ok phase') ↔
      InOrder S.authSession request phase := by
  cases phase with
  | begun => exact ⟨fun _ => trivial, fun _ => ⟨_, rfl⟩⟩
  | scanned seen =>
    show _ ↔ ∀ revokedAt ∈ request.revokedAt, ∀ row ∈ S.authSession, row.id ∈ seen →
      request.Matches row → row.issuedAt ≤ revokedAt
    rw [← lockRows_ok_iff h.valid]
    simp only [SessionRequest.statement, bind_eq_ok, pure_eq_ok]
    constructor
    · rintro ⟨-, rows, hrows, -⟩
      exact ⟨rows, hrows⟩
    · rintro ⟨rows, hrows⟩
      exact ⟨_, rows, hrows, rfl⟩
  | held rows =>
    rw [← secondStatement_eq_ok h hi]
    simp only [SessionRequest.statement, bind_eq_ok, exists_unit, pure_eq_ok, exists_and_left,
      exists_eq', and_true]
  | written rows => exact ⟨fun _ => trivial, fun _ => ⟨_, rfl⟩⟩

theorem commit_ok (h : Inv cfg S) (hi : S.requests i = some (request, phase)) (rows : List Uuid) :
    ∃ table', request.commit rows S.authSession = .ok table' := by
  cases request with
  | createSession session =>
    have hid := ((h.unused i _ hi).1 session.id (List.mem_singleton_self _)).1
    have hnew : ∀ row ∈ S.authSession.modify (fun row => row.id ∈ rows)
        (SessionRequest.createSession session).assignment, row.id ≠ session.row.id := by
      rintro row hrow
      obtain ⟨old, hold, rfl⟩ := Table.mem_modify.mp hrow
      have hkey : (Table.updated (fun row : AuthSessionRow => row.id ∈ rows)
          (SessionRequest.createSession session).assignment old).id = old.id := Table.key_updated old
      rw [hkey]
      exact hid old hold
    obtain ⟨table', htable⟩ : ∃ table', (S.authSession.modify (fun row => row.id ∈ rows)
        (SessionRequest.createSession session).assignment).insert? session.row = some table' := by
      refine Option.ne_none_iff_exists'.mp fun hnone => ?_
      obtain ⟨row, hrow, heq⟩ := Table.insert?_eq_none.mp hnone
      exact hnew row hrow heq
    exact ⟨table', Table.insert_eq_ok.mpr (Table.insert?_eq_some.mp htable)⟩
  | rotateSession current next usedAt => exact ⟨_, rfl⟩
  | revokeSession sessionId revokedAt reason => exact ⟨_, rfl⟩

variable [DecidableEq ι]

/-- **A statement** keeps the invariant. -/
theorem Inv.statement (h : Inv cfg S) (hi : S.requests i = some (request, phase))
    (hwaits : ¬ S.Waits i request phase) (hphase : ∀ rows, phase ≠ .written rows)
    (hok : request.statement S.authSession phase = .ok phase') : Inv cfg (S.put i request phase') := by
  have hcall := h.call i _ hi
  have hunused := h.unused i _ hi
  cases phase with
  | begun =>
    obtain rfl := Except.ok.inj hok
    exact h.put hcall hunused (fun id hid => absurd hid List.not_mem_nil) (fun _ _ _ heq => by cases heq)
  | scanned seen =>
    simp only [SessionRequest.statement, bind_eq_ok, pure_eq_ok] at hok
    obtain ⟨rows, hrows, rfl⟩ := hok
    have hspec := lockRows_spec h.valid hrows
    refine h.put hcall hunused (fun id hid => ?_) ?_
    · rw [afterLock_rows] at hid
      obtain ⟨hseen, hrow⟩ := hspec id hid
      exact ⟨hrow, fun j hij hj => hwaits ⟨id, hseen, j, hij, hj⟩⟩
    · rintro session rows' rfl heq
      cases heq
  | held rows =>
    simp only [SessionRequest.statement, bind_eq_ok, exists_unit, pure_eq_ok] at hok
    obtain ⟨hsecond, rfl⟩ := hok
    refine h.put hcall hunused (fun id hid => ⟨h.holds i _ hi id hid, fun j hij hj => ?_⟩) ?_
    · exact h.exclusive j i id hij hj ⟨_, hi, hid⟩
    · rintro session rows' rfl heq
      obtain rfl := Phase.written.inj heq
      obtain ⟨hchecks, -, -, hopen⟩ := insertSession_eq_ok.mp hsecond
      exact ⟨hchecks, hopen, fun j hij hj => hwaits (.inl ⟨j, hij, hj⟩)⟩
  | written rows => exact absurd rfl (hphase rows)

variable [Fintype ι]

theorem advance_cases {event : AuthEvent} (h : advance i S = some (event, S')) :
    ∃ request phase, S.requests i = some (request, phase) ∧ ¬ S.Waits i request phase ∧
      ((∃ rows, phase = .written rows ∧
          ((∃ table, request.commit rows S.authSession = .ok table ∧ event = .commit ∧
              S' = S.finish i table) ∨
            ∃ cause, request.commit rows S.authSession = .error cause ∧ event = .abort cause ∧
              S' = S.finish i S.authSession)) ∨
        (∀ rows, phase ≠ .written rows) ∧
          ((∃ phase', request.statement S.authSession phase = .ok phase' ∧ event = .statement ∧
              S' = S.put i request phase') ∨
            ∃ cause, request.statement S.authSession phase = .error cause ∧ event = .abort cause ∧
              S' = S.finish i S.authSession)) := by
  unfold advance at h
  cases hi : S.requests i with
  | none =>
    rw [hi] at h
    cases h
  | some e =>
    obtain ⟨request, phase⟩ := e
    rw [hi] at h
    dsimp only at h
    by_cases hwaits : S.Waits i request phase
    · rw [if_pos hwaits] at h
      cases h
    rw [if_neg hwaits] at h
    refine ⟨request, phase, rfl, hwaits, ?_⟩
    have hstatement : some (S.stepped i request (request.statement S.authSession phase)) =
          some (event, S') →
        (∃ phase', request.statement S.authSession phase = .ok phase' ∧ event = .statement ∧
            S' = S.put i request phase') ∨
          ∃ cause, request.statement S.authSession phase = .error cause ∧ event = .abort cause ∧
            S' = S.finish i S.authSession := by
      intro heq
      cases hx : request.statement S.authSession phase with
      | ok phase' =>
        rw [hx] at heq
        obtain ⟨rfl, rfl⟩ := Prod.mk.inj (Option.some.inj heq)
        exact .inl ⟨phase', rfl, rfl, rfl⟩
      | error cause =>
        rw [hx] at heq
        obtain ⟨rfl, rfl⟩ := Prod.mk.inj (Option.some.inj heq)
        exact .inr ⟨cause, rfl, rfl, rfl⟩
    cases phase with
    | written rows =>
      refine .inl ⟨rows, rfl, ?_⟩
      dsimp only at h
      cases hcommit : request.commit rows S.authSession with
      | ok table =>
        rw [hcommit] at h
        obtain ⟨rfl, rfl⟩ := Prod.mk.inj (Option.some.inj h)
        exact .inl ⟨table, rfl, rfl, rfl⟩
      | error cause =>
        rw [hcommit] at h
        obtain ⟨rfl, rfl⟩ := Prod.mk.inj (Option.some.inj h)
        exact .inr ⟨cause, rfl, rfl, rfl⟩
    | begun => exact .inr ⟨fun _ heq => (by cases heq), hstatement h⟩
    | scanned seen => exact .inr ⟨fun _ heq => (by cases heq), hstatement h⟩
    | held rows => exact .inr ⟨fun _ heq => (by cases heq), hstatement h⟩

theorem authStep_cases {l : AuthLabel ι} (h : AuthStep cfg S l S') :
    (∃ i call request, l = .start i call ∧ call.request cfg = some request ∧ S.requests i = none ∧
        Unused S i request ∧ S' = S.put i request .begun) ∨
      ∃ i event, l = .step i event ∧ advance i S = some (event, S') := by
  cases l with
  | start i call =>
    simp only [AuthStep, perform] at h
    cases hrequest : call.request cfg with
    | none =>
      rw [hrequest] at h
      cases h
    | some request =>
      rw [hrequest] at h
      dsimp only at h
      by_cases hfree : S.requests i = none ∧ Unused S i request
      · rw [if_pos hfree] at h
        exact .inl ⟨i, call, request, rfl, hrequest, hfree.1, hfree.2, (Option.some.inj h).symm⟩
      · rw [if_neg hfree] at h
        cases h
  | step i event =>
    simp only [AuthStep, perform] at h
    cases hadvance : advance i S with
    | none =>
      rw [hadvance] at h
      cases h
    | some e =>
      obtain ⟨event', S''⟩ := e
      rw [hadvance] at h
      dsimp only at h
      by_cases heq : event' = event
      · rw [if_pos heq] at h
        obtain rfl := heq
        obtain rfl := Option.some.inj h
        exact .inr ⟨i, event', rfl, hadvance⟩
      · rw [if_neg heq] at h
        cases h

/-- **One step** keeps the invariant. -/
theorem inv_step {l : AuthLabel ι} (h : Inv cfg S) (hstep : AuthStep cfg S l S') : Inv cfg S' := by
  rcases authStep_cases hstep with ⟨i, call, request, -, hcall, -, hunused, rfl⟩ | ⟨i, event, -, hadvance⟩
  · exact h.put ⟨call, hcall⟩ hunused (fun id hid => absurd hid List.not_mem_nil)
      (fun _ _ _ heq => by cases heq)
  · obtain ⟨request, phase, hi, hwaits, ⟨rows, rfl, hcommit⟩ | ⟨hphase, hstatement⟩⟩ :=
      advance_cases hadvance
    · rcases hcommit with ⟨table, hok, -, rfl⟩ | ⟨cause, -, -, rfl⟩
      · exact h.commit hi hok
      · exact h.abort
    · rcases hstatement with ⟨phase', hok, -, rfl⟩ | ⟨cause, -, -, rfl⟩
      · exact h.statement hi hwaits hphase hok
      · exact h.abort

/-! ### Progress -/

theorem advance_isSome (hi : S.requests i = some (request, phase))
    (hwaits : ¬ S.Waits i request phase) : (advance i S).isSome = true := by
  unfold advance
  rw [hi]
  dsimp only
  rw [if_neg hwaits]
  cases phase <;> rfl

/-- **No deadlock**: while a transaction is open, some transaction can go on. -/
theorem exists_advance (h : Inv cfg S) (hopen : S.requests i ≠ none) :
    ∃ j, (advance j S).isSome = true := by
  by_cases hwritten : ∃ j request rows, S.requests j = some (request, .written rows)
  · obtain ⟨j, request, rows, hj⟩ := hwritten
    refine ⟨j, advance_isSome hj ?_⟩
    cases request <;> exact fun hwaits => hwaits
  have hnone : ∀ j player, ¬ S.Inserts j player := by
    rintro j player ⟨⟨request, phase⟩, he, hp⟩
    cases phase with
    | written rows => exact hwritten ⟨j, request, rows, he⟩
    | begun => cases request <;> cases hp
    | scanned seen => cases request <;> cases hp
    | held rows => cases request <;> cases hp
  by_cases hheld : ∃ j request rows, S.requests j = some (request, .held rows)
  · obtain ⟨j, request, rows, hj⟩ := hheld
    by_cases hwaits : S.Waits j request (.held rows)
    swap
    · exact ⟨j, advance_isSome hj hwaits⟩
    cases request with
    | rotateSession current next usedAt => exact hwaits.elim
    | revokeSession sessionId revokedAt reason => exact hwaits.elim
    | createSession session =>
      obtain ⟨k, -, hk⟩ | ⟨row, hrow, hplayer, hout, k, hkj, hk⟩ := hwaits
      · exact absurd hk (hnone k _)
      -- the login that closed the open row has no other open row of the player to wait for
      obtain ⟨⟨request', phase⟩, he, hid⟩ := hk
      cases phase with
      | begun => cases request' <;> exact absurd hid List.not_mem_nil
      | scanned seen => cases request' <;> exact absurd hid List.not_mem_nil
      | written rows' => exact absurd ⟨k, request', rows', he⟩ hwritten
      | held rows' =>
        cases request' with
        | rotateSession current next usedAt => exact absurd hid List.not_mem_nil
        | revokeSession sessionId revokedAt reason => exact absurd hid List.not_mem_nil
        | createSession session' =>
          refine ⟨k, advance_isSome he ?_⟩
          rintro (⟨l, -, hl⟩ | ⟨row', hrow', hplayer', hout', -⟩)
          · exact hnone l _ hl
          · obtain ⟨row'', hrow'', hid'', hmatch, -⟩ := h.holds k _ he row.id hid
            obtain rfl := Table.eq_of_key hrow'' hrow hid''
            have hsame : session'.player.id = session.player.id := hmatch.1.symm.trans hplayer.1
            rw [hsame] at hplayer'
            obtain rfl := h.valid.one_open _ row'' hrow row' hrow' hplayer hplayer'
            exact hout' hid
  · obtain ⟨⟨request, phase⟩, he⟩ := Option.ne_none_iff_exists'.mp hopen
    refine ⟨i, advance_isSome he ?_⟩
    have hfree : ∀ j id, ¬ S.Holds j id := by
      rintro j id ⟨⟨request, phase⟩, he, hid⟩
      cases phase with
      | begun => exact absurd hid List.not_mem_nil
      | scanned seen => exact absurd hid List.not_mem_nil
      | held rows => exact hheld ⟨j, request, rows, he⟩
      | written rows => exact hwritten ⟨j, request, rows, he⟩
    cases phase with
    | begun => exact fun hwaits => hwaits
    | scanned seen => exact fun ⟨id, _, j, _, hj⟩ => hfree j id hj
    | held rows => exact absurd ⟨i, request, rows, he⟩ hheld
    | written rows => exact absurd ⟨i, request, rows, he⟩ hwritten

end Steps

/-! ### Runs -/

/-- A login left its session as the only open one and closed the others. -/
structure LeftAlone (session : NewSession) (table table' : SessionTable) : Prop where
  open_own : ∀ row, row ∈ table' ∧ row.OpenFor session.player.id ↔ row = session.row
  superseded : ∀ row ∈ table, row.OpenFor session.player.id → ∃ row' ∈ table', row'.id = row.id ∧
    row'.revokedAt = some session.issuedAt ∧ row'.revocationReason = some "superseded_login"

/-- **A run is sound**: one open session per player in every state, every login
that commits leaves its own session alone, nothing aborts, and open transactions can go on. -/
structure Sound {ι : Type} [DecidableEq ι] [Fintype ι]
    (ts : List (Transition (AuthSystem ι) (AuthLabel ι))) : Prop where
  one_open : ∀ t ∈ ts, OneOpen t.post.authSession
  login : ∀ t ∈ ts, ∀ i session phase, t.label = .step i .commit →
    t.pre.requests i = some (.createSession session, phase) →
      LeftAlone session t.pre.authSession t.post.authSession
  no_abort : ∀ t ∈ ts, ∀ i cause, t.label ≠ .step i (.abort cause)
  goes_on : ∀ t ∈ ts, ∀ i, t.post.requests i ≠ none → ∃ j, (advance j t.post).isSome = true

section Runs

variable {ι : Type} {cfg : AuthConfig} {S : AuthSystem ι}

theorem leftAlone_of_commit (h : Inv cfg S) {i : ι} {session : NewSession} {rows : List Uuid}
    {table' : SessionTable} (hi : S.requests i = some (.createSession session, .written rows))
    (hok : (SessionRequest.createSession session).commit rows S.authSession = .ok table') :
    LeftAlone session S.authSession table' := by
  refine ⟨fun row => ⟨?_, ?_⟩, fun row hrow hopen => ?_⟩
  · rintro ⟨hrow, hopen⟩
    rcases openFor_of_commit h hi hok hrow hopen with ⟨session', heq, rfl, -⟩ | ⟨hfree, -⟩
    · rw [SessionRequest.createSession.inj heq]
    · exact absurd rfl (hfree session rfl)
  · rintro rfl
    exact ⟨(mem_commit hok).mpr (.inr (.inr ⟨session, rfl, rfl⟩)), rfl, rfl⟩
  · have hin := (h.inserted i session rows hi).2 row hrow hopen
    exact ⟨_, (mem_commit hok).mpr (.inl ⟨row, hrow, hin, rfl⟩), rfl, rfl, rfl⟩

variable [DecidableEq ι] [Fintype ι]

/-- A step is in order when the statement that it runs is. -/
def StepInOrder (t : Transition (AuthSystem ι) (AuthLabel ι)) : Prop :=
  ∀ i event, t.label = .step i event → ∀ e ∈ t.pre.requests i, InOrder t.pre.authSession e.1 e.2

/-- **A step aborts exactly when it is out of order**. -/
theorem stepInOrder_iff {t : Transition (AuthSystem ι) (AuthLabel ι)} (h : Inv cfg t.pre)
    (hstep : AuthStep cfg t.pre t.label t.post) :
    StepInOrder t ↔ ∀ i cause, t.label ≠ .step i (.abort cause) := by
  constructor
  · intro horder i cause hlabel
    rcases authStep_cases hstep with ⟨_, _, _, hstart, -⟩ | ⟨j, event, hevent, hadvance⟩
    · cases hlabel.symm.trans hstart
    obtain ⟨rfl, rfl⟩ := AuthLabel.step.inj (hlabel.symm.trans hevent)
    obtain ⟨request, phase, hi, -, ⟨rows, rfl, hcommit⟩ | ⟨-, hstatement⟩⟩ := advance_cases hadvance
    · obtain ⟨table, hok⟩ := commit_ok h hi rows
      rcases hcommit with ⟨_, -, heq, -⟩ | ⟨_, herror, -⟩
      · cases heq
      · cases hok.symm.trans herror
    · obtain ⟨phase', hok⟩ := (statement_ok_iff h hi).mpr (horder i _ hlabel _ hi)
      rcases hstatement with ⟨_, -, heq, -⟩ | ⟨_, herror, -⟩
      · cases heq
      · cases hok.symm.trans herror
  · rintro hnone i event hlabel ⟨request, phase⟩ hi
    refine (statement_ok_iff h hi).mp ?_
    rcases authStep_cases hstep with ⟨_, _, _, hstart, -⟩ | ⟨j, event', hevent, hadvance⟩
    · cases hlabel.symm.trans hstart
    obtain ⟨rfl, rfl⟩ := AuthLabel.step.inj (hlabel.symm.trans hevent)
    obtain ⟨request', phase', hi', -, ⟨rows, hphase, -⟩ | ⟨-, hstatement⟩⟩ := advance_cases hadvance
    · obtain ⟨rfl, rfl⟩ := Prod.mk.inj (Option.some.inj (hi.symm.trans hi'))
      rw [hphase]
      exact ⟨_, rfl⟩
    · obtain ⟨rfl, rfl⟩ := Prod.mk.inj (Option.some.inj (hi.symm.trans hi'))
      rcases hstatement with ⟨phase'', hok, -⟩ | ⟨cause, -, rfl, -⟩
      · exact ⟨phase'', hok⟩
      · exact absurd hlabel (hnone i cause)

/-- **Logins are sound exactly when their statements are in order**: over every run of any number
of connections from any valid table. -/
theorem sound_iff_inOrder {table : SessionTable} (hvalid : ValidSessions table)
    {ts : List (Transition (AuthSystem ι) (AuthLabel ι))}
    (hrun : Run (AuthStep cfg) (AuthSystem.start table) ts S) :
    Sound ts ↔ ∀ t ∈ ts, StepInOrder t := by
  obtain ⟨-, hinv⟩ := hrun.invariant' (I := Inv cfg) (fun _ _ _ h hstep => inv_step h hstep)
    (inv_start hvalid)
  constructor
  · intro h t ht
    exact (stepInOrder_iff (hinv t ht).1 (hrun.step_of_mem t ht)).mpr (h.no_abort t ht)
  · intro horder
    refine ⟨fun t ht => (hinv t ht).2.valid.one_open, fun t ht i session phase hlabel hi => ?_,
      fun t ht => (stepInOrder_iff (hinv t ht).1 (hrun.step_of_mem t ht)).mp (horder t ht),
      fun t ht i hopen => exists_advance (hinv t ht).2 hopen⟩
    rcases authStep_cases (hrun.step_of_mem t ht) with ⟨_, _, _, hstart, -⟩ | ⟨j, event, hevent, hadvance⟩
    · cases hlabel.symm.trans hstart
    obtain ⟨rfl, rfl⟩ := AuthLabel.step.inj (hlabel.symm.trans hevent)
    obtain ⟨request, phase', hi', -, ⟨rows, rfl, hcommit⟩ | ⟨-, hstatement⟩⟩ := advance_cases hadvance
    · obtain ⟨rfl, rfl⟩ := Prod.mk.inj (Option.some.inj (hi.symm.trans hi'))
      rcases hcommit with ⟨table', hok, -, hpost⟩ | ⟨_, -, heq, -⟩
      · rw [hpost]
        exact leftAlone_of_commit (hinv t ht).1 hi hok
      · cases heq
    · rcases hstatement with ⟨_, -, heq, -⟩ | ⟨_, -, heq, -⟩ <;> cases heq

end Runs

/-! ### Two logins of one player -/

def exampleAuthConfig : AuthConfig := ⟨3600, by decide, by decide⟩

def examplePlayer : PlayerIdentity := ⟨⟨1⟩, .externalSelfCustodial, "alice"⟩

/-- A login of the player with Hive Keychain. -/
def exampleLogin (draw : Draw) (now : Timestamp) : ServiceCall :=
  .createHiveSession draw (some ⟨"challenge", now + 1000, "alice", ⟨2⟩, .webgl⟩) true examplePlayer
    .keychain now

/-- Runs a schedule on two connections, from an empty table. -/
def scheduled (schedule : List (AuthLabel Bool)) :
    Option (List (Transition (AuthSystem Bool) (AuthLabel Bool)) × AuthSystem Bool) :=
  replay (perform exampleAuthConfig) (.start .empty) schedule

/-- Both logins look for open sessions before either inserts its own. -/
def overlapping : List (AuthLabel Bool) :=
  [.start false (exampleLogin ⟨⟨10⟩, "hash10"⟩ 1000), .start true (exampleLogin ⟨⟨11⟩, "hash11"⟩ 2000),
    .step false .statement, .step true .statement, .step false .statement, .step true .statement,
    .step false .statement, .step false .commit, .step true (.abort .oneOpenPerPlayer)]

/-- One login after the other. -/
def successive : List (AuthLabel Bool) :=
  [.start false (exampleLogin ⟨⟨10⟩, "hash10"⟩ 1000), .step false .statement, .step false .statement,
    .step false .statement, .step false .commit,
    .start true (exampleLogin ⟨⟨11⟩, "hash11"⟩ 2000), .step true .statement, .step true .statement,
    .step true .statement, .step true .commit]

theorem valid_empty : ValidSessions .empty where
  one_open := fun _ _ ha => absurd ha Table.not_mem_empty
  checks := fun _ hrow => absurd hrow Table.not_mem_empty

theorem scheduled_run {schedule : List (AuthLabel Bool)} (h : (scheduled schedule).isSome = true) :
    ∃ ts S, Run (AuthStep exampleAuthConfig) (AuthSystem.start .empty) ts S ∧
      ts.map Transition.label = schedule := by
  obtain ⟨⟨ts, S⟩, hreplay⟩ := Option.isSome_iff_exists.mp h
  have hrun := replay_run (fun _ _ _ h => h) hreplay
  exact ⟨ts, S, hrun⟩

/-- The second of two overlapping logins aborts. -/
theorem not_sound_overlapping :
    ¬ ∀ (table : SessionTable) (ts : List (Transition (AuthSystem Bool) (AuthLabel Bool)))
        (S : AuthSystem Bool), ValidSessions table →
        Run (AuthStep exampleAuthConfig) (AuthSystem.start table) ts S → Sound ts := by
  intro h
  obtain ⟨ts, S, hrun, hlabels⟩ := @scheduled_run overlapping (by decide +kernel)
  have hin : AuthLabel.step true (.abort .oneOpenPerPlayer) ∈ ts.map Transition.label := by
    rw [hlabels]
    exact List.mem_of_mem_getLast? rfl
  obtain ⟨t, ht, hlabel⟩ := List.mem_map.mp hin
  exact (h .empty ts S valid_empty hrun).no_abort t ht true _ hlabel

theorem sound_iff_inOrder_successive :
    ∃ ts S, Run (AuthStep exampleAuthConfig) (AuthSystem.start .empty) ts S ∧
      ts.map Transition.label = successive ∧ (Sound ts ↔ ∀ t ∈ ts, StepInOrder t) := by
  obtain ⟨ts, S, hrun, hlabels⟩ := @scheduled_run successive (by decide +kernel)
  exact ⟨ts, S, hrun, hlabels, sound_iff_inOrder valid_empty hrun⟩

end HiveChameleon.Auth
