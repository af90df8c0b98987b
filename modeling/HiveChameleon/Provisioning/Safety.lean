import HiveChameleon.Provisioning.Stages

/-!
# Provisioning.Safety — a job, its identity, its keys and its player agree

`Bound` says that a ready job has its identity linked, its keys active and its player bound, and
that any other job has none of these.  `markReady` links the identity and activates the keys also
when its update matches no job row.  That never happens: a job only moves forward, and a call comes to
`markReady` only after the job has come as far as the delegation of its credits.
-/

namespace HiveChameleon.Provisioning

open Gateway Lib

/-! ### The property -/

/-- The stored job is ready. -/
def Ready (id : Uuid) (db : Db) : Prop := ∃ job ∈ db.provisioning, job.id = id ∧ job.state = .ready

/-- A finished job: one player, bound to the job, linked to the identity, owner of all the keys. -/
structure Finished (db : Db) (job : ProvisioningRow) (player : Uuid) : Prop where
  resulting : job.resultingPlayerId = some player
  identity : ∃ identity ∈ db.externalIdentity, identity.id = job.externalIdentityId ∧
    identity.status = .linked ∧ identity.playerId = some player
  keys : ∀ role, ∃ key ∈ db.custodyKey, key.provisioningId = job.id ∧ key.authorityRole = role
  active : ∀ key ∈ db.custodyKey, key.provisioningId = job.id →
    key.state = .active ∧ key.playerId = some player

/-- An unfinished job: no player, no link, no active key. -/
structure Unfinished (db : Db) (job : ProvisioningRow) : Prop where
  resulting : job.resultingPlayerId = none
  identity : ∃ identity ∈ db.externalIdentity, identity.id = job.externalIdentityId ∧
    identity.status = .provisioning ∧ identity.playerId = none
  generated : ∀ key ∈ db.custodyKey, key.provisioningId = job.id →
    key.state = .generated ∧ key.playerId = none

/-- **The binding of a job**: everything is in place exactly when the job is ready. -/
def Bound (id : Uuid) (db : Db) : Prop :=
  ∃ job, db.provisioning.find? id = some job ∧
    (job.state = .ready → ∃ player, Finished db job player) ∧
    (job.state ≠ .ready → Unfinished db job)

/-- Two current keys of the job with one role. -/
def SameRole (id : Uuid) (k k' : CustodyKeyRow) : Prop :=
  k.provisioningId = id ∧ k'.provisioningId = id ∧ k.state.current = true ∧
    k'.state.current = true ∧ k.authorityRole = k'.authorityRole

/-- The job has one current key of a role at most. -/
def RolesUnique (id : Uuid) (rows : List CustodyKeyRow) : Prop :=
  rows.Pairwise fun k k' => ¬ SameRole id k k'

/-- The job has a key that can be activated for a role. -/
def HasKey (id : Uuid) (role : HiveAuthorityRole) (db : Db) : Prop :=
  ∃ key ∈ db.custodyKey, activatable id key ∧ key.authorityRole = role

/-- The invariant of a job; no key is stored before the job is past its confirmation. -/
structure Inv (id : Uuid) (db : Db) : Prop where
  bound : Bound id db
  roles : RolesUnique id db.custodyKey.rows
  started : Reached id 1 db
  keys : (∃ key ∈ db.custodyKey, key.provisioningId = id) → Reached id 2 db

/-- What any move of one call does to the others: the invariant stays, the job does not go back, and
keys stay. -/
def Moves (id : Uuid) (db db' : Db) : Prop :=
  Inv id db → Inv id db' ∧ (∀ n, Reached id n db → Reached id n db') ∧
    ∀ role, HasKey id role db → HasKey id role db'

section Moves

variable {id : Uuid} {db db' db'' : Db}

theorem Moves.refl (id : Uuid) (db : Db) : Moves id db db := fun h => ⟨h, fun _ h => h, fun _ h => h⟩

theorem Moves.trans (h : Moves id db db') (h' : Moves id db' db'') : Moves id db db'' := by
  intro hinv
  obtain ⟨hinv', hreached, hkeys⟩ := h hinv
  obtain ⟨hinv'', hreached', hkeys'⟩ := h' hinv'
  exact ⟨hinv'', fun n h => hreached' n (hreached n h), fun role h => hkeys' role (hkeys role h)⟩

theorem ready_iff {job : ProvisioningRow} (hfind : db.provisioning.find? id = some job) :
    Ready id db ↔ job.state = .ready := by
  obtain ⟨hmem, hid⟩ := Table.find?_eq_some.mp hfind
  constructor
  · rintro ⟨job', hmem', hid', hstate⟩
    rwa [Table.eq_of_key hmem hmem' (hid.trans hid'.symm)]
  · intro hstate
    exact ⟨job, hmem, hid, hstate⟩

theorem ready_iff_reached : Ready id db ↔ Reached id 7 db := by
  have hlast : ∀ state, 7 ≤ progress state ↔ state = .ready := by
    intro state
    cases state <;> decide
  constructor
  · rintro ⟨job, hmem, hid, hstate⟩
    exact ⟨job.state, stageOf_of_find (Table.find?_eq_some.mpr ⟨hmem, hid⟩), (hlast _).mpr hstate⟩
  · rintro ⟨state, hstage, hle⟩
    obtain ⟨job, hfind, rfl⟩ := Option.map_eq_some_iff.mp hstage
    exact (ready_iff hfind).mpr ((hlast _).mp hle)

/-! ### State transitions -/

/-- A transition between states other than `ready` keeps the job bound. -/
theorem bound_transition {states : List ProvisioningState}
    {set : Table.Assignment ProvisioningRow.id} (hstates : ProvisioningState.ready ∉ states)
    (hset : ∀ row : ProvisioningRow, (set row).state ≠ .ready ∧
      (set row).resultingPlayerId = row.resultingPlayerId ∧
      (set row).externalIdentityId = row.externalIdentityId)
    (hok : transition id states set db = .ok db') (hbound : Bound id db) : Bound id db' := by
  obtain ⟨-, rfl⟩ := transition_eq_ok.mp hok
  obtain ⟨job, hfind, hfinished, hunfinished⟩ := hbound
  obtain ⟨-, hid⟩ := Table.find?_eq_some.mp hfind
  have hfind' : (db.provisioning.modify (fun row => row.id = id ∧ row.state ∈ states) set).find? id =
      some (Table.updated (fun row => row.id = id ∧ row.state ∈ states) set job) := by
    rw [Table.find?_modify, hfind]
    rfl
  by_cases hp : job.id = id ∧ job.state ∈ states
  · have hnot : job.state ≠ .ready := fun heq => hstates (heq ▸ hp.2)
    obtain ⟨hstate, hresulting, hidentity⟩ := hset job
    have hkey : (set job).id = job.id := set.keeps job
    rw [Table.updated_of (p := fun row : ProvisioningRow => row.id = id ∧ row.state ∈ states) hp]
      at hfind'
    have hu := hunfinished hnot
    refine ⟨set job, hfind', fun heq => absurd heq hstate, fun _ => ⟨?_, ?_, ?_⟩⟩
    · rw [hresulting]
      exact hu.resulting
    · rw [hidentity]
      exact hu.identity
    · rw [hkey]
      exact hu.generated
  · rw [Table.updated_of_not (p := fun row : ProvisioningRow => row.id = id ∧ row.state ∈ states) hp]
      at hfind'
    refine ⟨job, hfind', fun hready => ?_, fun hnot => ?_⟩
    · obtain ⟨player, h⟩ := hfinished hready
      exact ⟨player, h.resulting, h.identity, h.keys, h.active⟩
    · have h := hunfinished hnot
      exact ⟨h.resulting, h.identity, h.generated⟩

theorem moves_transition {states : List ProvisioningState}
    {set : Table.Assignment ProvisioningRow.id} (hstates : ProvisioningState.ready ∉ states)
    (hset : ∀ row : ProvisioningRow, (set row).state ≠ .ready ∧
      (set row).resultingPlayerId = row.resultingPlayerId ∧
      (set row).externalIdentityId = row.externalIdentityId)
    (hok : transition id states set db = .ok db')
    (hreached : ∀ n, Reached id n db → Reached id n db') : Moves id db db' := by
  intro hinv
  have hbound := bound_transition hstates hset hok hinv.bound
  obtain ⟨-, rfl⟩ := transition_eq_ok.mp hok
  exact ⟨⟨hbound, hinv.roles, hreached 1 hinv.started, fun hkey => hreached 2 (hinv.keys hkey)⟩,
    hreached, fun _ h => h⟩

/-! ### Saving keys -/

/-- A row that `saveKeys` adds for the job. -/
def NewKey (id : Uuid) (key : CustodyKeyRow) : Prop :=
  key.provisioningId = id ∧ key.state = .generated ∧ key.playerId = none

theorem insertKeys_spec {ids : ℕ → Uuid} {time : Timestamp} :
    ∀ {keys : List CustodyKeyReference} {drawn : ℕ} {rows added : List CustodyKeyRow},
      insertKeys ids id time drawn keys rows = .ok added →
        (∀ key ∈ added, NewKey id key) ∧ (RolesUnique id rows → RolesUnique id (rows ++ added))
  | [], _, rows, added, hok => by
    obtain rfl : [] = added := by simpa [insertKeys] using hok
    exact ⟨fun key hkey => absurd hkey List.not_mem_nil, fun h => by rwa [List.append_nil]⟩
  | key :: keys, drawn, rows, added, hok => by
    simp only [insertKeys, bind_eq_ok, exists_unit] at hok
    obtain ⟨-, hok⟩ := hok
    split at hok
    · exact insertKeys_spec hok
    · simp only [bind_eq_ok, exists_unit, require_eq_ok, pure_eq_ok] at hok
      obtain ⟨hfree, -, rest, hrest, rfl⟩ := hok
      obtain ⟨hnew, hroles⟩ := insertKeys_spec hrest
      refine ⟨fun k hk => ?_, fun h => ?_⟩
      · rcases List.mem_cons.mp hk with rfl | hk
        · exact ⟨rfl, rfl, rfl⟩
        · exact hnew k hk
      · rw [← List.singleton_append, ← List.append_assoc]
        refine hroles (List.pairwise_append.mpr ⟨h, List.pairwise_singleton _ _, ?_⟩)
        intro k hk k' hk' hsame
        obtain rfl := List.mem_singleton.mp hk'
        obtain ⟨hprov, -, hcurrent, -, hrole⟩ := hsame
        exact hfree k hk ⟨hcurrent, hprov, hrole⟩

theorem exists_role {rows : List CustodyKeyRow} (hroles : RolesUnique id rows)
    (hcount : (rows.filter fun k => k.provisioningId = id && k.state = .generated).length = 4)
    (role : HiveAuthorityRole) :
    ∃ key ∈ rows, key.provisioningId = id ∧ key.state = .generated ∧ key.authorityRole = role := by
  by_contra hnone
  have hfilter := hroles.filter fun k => k.provisioningId = id && k.state = .generated
  have hmem : ∀ k ∈ rows.filter (fun k => k.provisioningId = id && k.state = .generated),
      k ∈ rows ∧ k.provisioningId = id ∧ k.state = .generated := fun k hk => by
    simpa only [List.mem_filter, Bool.and_eq_true, decide_eq_true_eq] using hk
  have hnodup : ((rows.filter fun k => k.provisioningId = id && k.state = .generated).map
      (·.authorityRole)).Nodup := by
    refine List.pairwise_map.mpr (hfilter.imp_of_mem fun {k k'} hk hk' hsame heq => hsame ?_)
    obtain ⟨-, hprov, hstate⟩ := hmem k hk
    obtain ⟨-, hprov', hstate'⟩ := hmem k' hk'
    exact ⟨hprov, hprov', by rw [hstate]; rfl, by rw [hstate']; rfl, heq⟩
  have hsubset : (rows.filter fun k => k.provisioningId = id && k.state = .generated).map
      (·.authorityRole) ⊆ authorityRoles.erase role := by
    intro r hr
    obtain ⟨k, hk, rfl⟩ := List.mem_map.mp hr
    obtain ⟨hin, hprov, hstate⟩ := hmem k hk
    have hne : k.authorityRole ≠ role := fun heq => hnone ⟨k, hin, hprov, hstate, heq⟩
    refine (List.mem_erase_of_ne hne).mpr ?_
    cases k.authorityRole <;> decide
  have hle := (List.subperm_of_subset hnodup hsubset).length_le
  rw [List.length_map, hcount] at hle
  have herase : (authorityRoles.erase role).length = 3 := by cases role <;> decide
  omega

/-- After its count, `saveKeys` covers every role. -/
theorem saveKeys_spec {ids : ℕ → Uuid} {keys : List CustodyKeyReference} {time : Timestamp}
    {added : List CustodyKeyRow} (hroles : RolesUnique id db.custodyKey.rows)
    (hok : saveKeys ids id keys time db = .ok added) :
    (∀ key ∈ added, NewKey id key) ∧
      ∀ role, HasKey id role db ∨ ∃ key ∈ added, key.authorityRole = role := by
  simp only [saveKeys, bind_eq_ok, exists_unit, require_eq_ok, pure_eq_ok] at hok
  obtain ⟨rows, hrows, hcount, rfl⟩ := hok
  obtain ⟨hnew, hunique⟩ := insertKeys_spec hrows
  refine ⟨hnew, fun role => ?_⟩
  obtain ⟨key, hkey, hprov, hstate, hrole⟩ := exists_role (hunique hroles) hcount role
  rcases List.mem_append.mp hkey with hkey | hkey
  · exact .inl ⟨key, hkey, ⟨hprov, .inl hstate⟩, hrole⟩
  · exact .inr ⟨key, hkey, hrole⟩

theorem addKeys_spec :
    ∀ {added : List CustodyKeyRow} {table table' : Table CustodyKeyRow (·.id)},
      addKeys added table = .ok table' →
        table'.rows = table.rows ++ added ∧ (∀ key ∈ added, keyRoleFree table.rows key) ∧
          ((∀ key ∈ added, NewKey id key) → RolesUnique id table.rows → RolesUnique id table'.rows)
  | [], table, table', hok => by
    obtain rfl : table = table' := by simpa [addKeys] using hok
    exact ⟨by rw [List.append_nil], fun key hkey => absurd hkey List.not_mem_nil, fun _ h => h⟩
  | key :: added, table, table', hok => by
    simp only [addKeys, bind_eq_ok, exists_unit, require_eq_ok, Table.insert_eq_ok] at hok
    obtain ⟨hfree, -, mid, ⟨-, hmid⟩, hok⟩ := hok
    obtain ⟨hrows, hfrees, hroles⟩ := addKeys_spec hok
    refine ⟨by rw [hrows, hmid, List.append_assoc, List.singleton_append], fun k hk => ?_,
      fun hnew h => hroles (fun k hk => hnew k (List.mem_cons_of_mem _ hk)) ?_⟩
    · rcases List.mem_cons.mp hk with rfl | hk
      · exact hfree
      · exact fun k' hk' => hfrees k hk k' (by rw [hmid]; exact List.mem_append_left _ hk')
    · rw [hmid]
      refine List.pairwise_append.mpr ⟨h, List.pairwise_singleton _ _, ?_⟩
      intro k hk k' hk' hsame
      obtain rfl := List.mem_singleton.mp hk'
      obtain ⟨hprov, hprov', hcurrent, -, hrole⟩ := hsame
      exact hfree k hk ⟨hcurrent, hprov.trans hprov'.symm, hrole⟩

theorem moves_saveKeysCommit {added : List CustodyKeyRow} {time : Timestamp}
    (hnew : ∀ key ∈ added, NewKey id key) (hok : saveKeysCommit id added time db = .ok db')
    (hreached : ∀ n, Reached id n db → Reached id n db')
    (hready : Reached id 1 db → Reached id 2 db') :
    Moves id db db' ∧ ∀ key ∈ added, HasKey id key.authorityRole db' := by
  simp only [saveKeysCommit, bind_eq_ok] at hok
  obtain ⟨table, htable, hok⟩ := hok
  obtain ⟨hrows, hfree, hroles⟩ := @addKeys_spec id added db.custodyKey table htable
  have hkept : ∀ k ∈ db.custodyKey, k ∈ table := fun k hk => by
    rw [Table.mem_def, hrows]
    exact List.mem_append_left _ hk
  have hadded : Bound id db → Bound id { db with custodyKey := table } := by
    rintro ⟨job, hfind, hfinished, hunfinished⟩
    obtain ⟨-, hid⟩ := Table.find?_eq_some.mp hfind
    refine ⟨job, hfind, fun hready => ?_, fun hnot => ?_⟩
    · -- a finished job has a current key of every role, so nothing was added
      obtain ⟨player, h⟩ := hfinished hready
      have hnone : added = [] := by
        refine List.eq_nil_iff_forall_not_mem.mpr fun key hkey => ?_
        obtain ⟨k, hk, hprov, hrole⟩ := h.keys key.authorityRole
        have hactive := (h.active k hk hprov).1
        exact hfree key hkey k hk ⟨by rw [hactive]; rfl,
          hprov.trans (hid.trans (hnew key hkey).1.symm), hrole⟩
      have hsame : table = db.custodyKey := Table.ext (by rw [hrows, hnone, List.append_nil])
      rw [hsame]
      exact ⟨player, h⟩
    · have h := hunfinished hnot
      refine ⟨h.resulting, h.identity, fun k hk hprov => ?_⟩
      have hk : k ∈ table := hk
      rw [Table.mem_def, hrows] at hk
      rcases List.mem_append.mp hk with hk | hk
      · exact h.generated k hk hprov
      · exact (hnew k hk).2
  have hbound : Bound id db → Bound id db' := fun h =>
    bound_transition (by decide) (fun _ => ⟨(by intro h; cases h), rfl, rfl⟩) hok (hadded h)
  obtain ⟨-, rfl⟩ := transition_eq_ok.mp hok
  refine ⟨fun hinv => ⟨⟨hbound hinv.bound, hroles hnew hinv.roles, hreached 1 hinv.started,
    fun _ => hready hinv.started⟩, hreached, fun role => ?_⟩, fun key hkey => ?_⟩
  · rintro ⟨k, hk, hrest⟩
    exact ⟨k, hkept k hk, hrest⟩
  · refine ⟨key, ?_, ⟨(hnew key hkey).1, .inl (hnew key hkey).2.1⟩, rfl⟩
    show key ∈ table
    rw [Table.mem_def, hrows]
    exact List.mem_append_right _ hkey

/-! ### `markReady` -/

/-- **`markReady` of a job whose credits are delegated**, with all its keys, finishes it. -/
theorem moves_markReady {playerId : Uuid} {time : Timestamp} (hdelegated : Reached id 6 db)
    (hkeys : ∀ role, HasKey id role db) (hok : markReady playerId id time db = .ok db')
    (hreached : ∀ n, Reached id n db → Reached id n db') :
    Moves id db db' ∧ Ready id db' := by
  obtain ⟨state, hstage, hstate⟩ := hdelegated
  obtain ⟨job, hfind, rfl⟩ := Option.map_eq_some_iff.mp hstage
  obtain ⟨hmem, hid⟩ := Table.find?_eq_some.mp hfind
  unfold markReady at hok
  rw [hfind] at hok
  dsimp only at hok
  by_cases hready : job.state = .ready
  · rw [if_pos hready] at hok
    obtain rfl := Except.ok.inj hok
    exact ⟨.refl id db, (ready_iff hfind).mpr hready⟩
  rw [if_neg hready] at hok
  have hlast : ∀ state, 6 ≤ progress state → state ≠ .ready →
      state ∈ [ProvisioningState.rcDelegated, .retryableFailed] := by
    intro state
    cases state <;> decide
  have hmatched : job.id = job.id ∧ job.state ∈ [ProvisioningState.rcDelegated, .retryableFailed] :=
    ⟨rfl, hlast job.state hstate hready⟩
  obtain ⟨player, set, activate, link, hset, hactivate, hlink, hjobs, hcustody, hidentities⟩ :=
    finalize_eq_ok hok
  have hfind' : db'.provisioning.find? id = some (set job) := by
    rw [hjobs, Table.find?_modify, hfind, Option.map_some,
      Table.updated_of (p := fun row : ProvisioningRow => row.id = job.id ∧
        row.state ∈ [ProvisioningState.rcDelegated, .retryableFailed]) hmatched]
  obtain ⟨hresulting, hstate', hterms⟩ := hset job
  have hexternal : (set job).externalIdentityId = job.externalIdentityId :=
    congrArg JobTerms.externalIdentityId hterms
  have hready' : Ready id db' := (ready_iff hfind').mpr hstate'
  have hkeep : ∀ k : CustodyKeyRow,
      (Table.updated (activatable job.id) activate k).provisioningId = k.provisioningId ∧
        (Table.updated (activatable job.id) activate k).authorityRole = k.authorityRole := fun k =>
    ⟨Table.updated_eq (g := fun k : CustodyKeyRow => k.provisioningId)
        (fun k => (hactivate k).2.2.1) k,
      Table.updated_eq (g := fun k : CustodyKeyRow => k.authorityRole)
        (fun k => (hactivate k).2.2.2.1) k⟩
  have hactive : ∀ role, ∃ key ∈ db'.custodyKey, key.provisioningId = id ∧
      key.authorityRole = role ∧ key.state = .active := by
    intro role
    obtain ⟨key, hkey, hact, hrole⟩ := hkeys role
    obtain ⟨-, hkeystate, hprov, hrole', -⟩ := hactivate key
    refine ⟨activate key, ?_, hprov.trans hact.1, hrole'.trans hrole, hkeystate⟩
    rw [hcustody]
    exact Table.mem_modify_of hkey (hid.symm ▸ hact)
  refine ⟨fun hinv => ?_, hready'⟩
  obtain ⟨job', hfind'', -, hunfinished⟩ := hinv.bound
  obtain rfl := Option.some.inj (hfind.symm.trans hfind'')
  have hu := hunfinished hready
  refine ⟨⟨⟨set job, hfind', fun _ => ⟨player, hresulting, ?_, ?_, ?_⟩, fun hne => absurd hstate' hne⟩,
    ?_, hreached 1 hinv.started, fun _ => (ready_iff_reached.mp hready').mono (by decide)⟩, hreached,
    fun role _ => ?_⟩
  · obtain ⟨identity, hin, hidentity, hstatus, -⟩ := hu.identity
    refine ⟨link identity, ?_, ?_, (hlink identity).2.1, (hlink identity).1⟩
    · rw [hidentities]
      exact Table.mem_modify_of hin ⟨hidentity, hstatus⟩
    · rw [link.keeps identity, hexternal]
      exact hidentity
  · intro role
    obtain ⟨key, hkey, hprov, hrole, -⟩ := hactive role
    exact ⟨key, hkey, hprov.trans (hid.symm.trans (set.keeps job).symm), hrole⟩
  · intro key hkey hprov
    rw [hcustody] at hkey
    rcases Table.mem_modify_cases hkey with ⟨old, hold, hact, rfl⟩ | ⟨hin, hnot⟩
    · exact ⟨(hactivate old).2.1, (hactivate old).1⟩
    · -- every key of an unfinished job is generated, so the update matches it
      have hprov : key.provisioningId = job.id := hprov.trans (set.keeps job)
      exact absurd ⟨hprov, .inl (hu.generated key hin hprov).1⟩ hnot
  · rw [hcustody]
    refine List.pairwise_map.mpr (hinv.roles.imp_of_mem fun {k k'} hk hk' hsame h => hsame ?_)
    obtain ⟨hprov, hprov', -, -, hrole⟩ := h
    rw [(hkeep k).1] at hprov
    rw [(hkeep k').1] at hprov'
    rw [(hkeep k).2, (hkeep k').2] at hrole
    have hcurrent := (hu.generated k hk (hprov.trans hid.symm)).1
    have hcurrent' := (hu.generated k' hk' (hprov'.trans hid.symm)).1
    exact ⟨hprov, hprov', by rw [hcurrent]; rfl, by rw [hcurrent']; rfl, hrole⟩
  · obtain ⟨key, hkey, hprov, hrole, hstate⟩ := hactive role
    exact ⟨key, hkey, ⟨hprov, .inr hstate⟩, hrole⟩

end Moves

/-! ### The answers -/

/-- The requests that only move the job between states other than `ready`: from one that it has
reached to the next. -/
inductive Request.IsTransition (id : Uuid) : ℕ → Request → Prop where
  | accountCreationPending (reference : String) (time : Timestamp) :
    IsTransition id 2 (.markAccountCreationPending id reference time)
  | accountCreated (transactionId : String) (time : Timestamp) :
    IsTransition id 3 (.markAccountCreated id transactionId time)
  | rcDelegationPending (time : Timestamp) : IsTransition id 4 (.markRcDelegationPending id time)
  | rcDelegated (reference : String) (time : Timestamp) :
    IsTransition id 5 (.markRcDelegated id reference time)

/-- The requests that write nothing. -/
inductive Request.IsRead : Request → Prop where
  | getJobForUpdate (id : Uuid) : IsRead (.getJobForUpdate id)
  | getKeys (id : Uuid) : IsRead (.getKeys id)
  | saveKeys (id : Uuid) (keys : List CustodyKeyReference) (time : Timestamp) :
    IsRead (.saveKeys id keys time)
  | generateAuthorityKeys (key : String) (id : Uuid) (roles : List HiveAuthorityRole) :
    IsRead (.generateAuthorityKeys key id roles)
  | createClaimedAccount (key : String) (keys : KeyMap) (policy sponsor username : String) :
    IsRead (.createClaimedAccount key keys policy sponsor username)
  | delegateInitialResourceCredits (key policy sponsor username : String) :
    IsRead (.delegateInitialResourceCredits key policy sponsor username)
  | verifyReady (keys : KeyMap) (sponsor username : String) :
    IsRead (.verifyReady keys sponsor username)
  | markRetryableFailure (id : Uuid) (code : String) (time : Timestamp) :
    IsRead (.markRetryableFailure id code time)

section Answers

variable {id : Uuid} {db db' : Db}

theorem answer_read {q : Request} {r : Except Failure q.Response} (hq : q.IsRead)
    (h : answer q db r db') : db' = db := by
  cases hq with
  | getJobForUpdate id => exact h.1
  | getKeys id => exact h.1
  | saveKeys id keys time => exact h.1
  | generateAuthorityKeys key id roles => exact h
  | createClaimedAccount key keys policy sponsor username => exact h
  | delegateInitialResourceCredits key policy sponsor username => exact h
  | verifyReady keys sponsor username => exact h
  | markRetryableFailure id code time =>
    rcases CallOutcome.db_cases h with hok | ⟨hdb, -⟩
    · cases hok
    · exact hdb

theorem answer_transition {n : ℕ} {q : Request} {r : Except Failure q.Response}
    (hq : q.IsTransition id n) (h : answer q db r db') : Moves id db db' := by
  have hreached : ∀ n, Reached id n db → Reached id n db' := fun n hn => hn.answer h
  cases hq with
  | accountCreationPending reference time =>
    rcases CallOutcome.db_cases h with hok | ⟨rfl, -⟩
    · simp only [markAccountCreationPending, bind_eq_ok, exists_unit] at hok
      exact moves_transition (by decide) (fun _ => ⟨(by intro h; cases h), rfl, rfl⟩) hok.2 hreached
    · exact .refl id db'
  | accountCreated transactionId time =>
    rcases CallOutcome.db_cases h with hok | ⟨rfl, -⟩
    · simp only [markAccountCreated, bind_eq_ok, exists_unit] at hok
      exact moves_transition (by decide) (fun _ => ⟨(by intro h; cases h), rfl, rfl⟩) hok.2 hreached
    · exact .refl id db'
  | rcDelegationPending time =>
    rcases CallOutcome.db_cases h with hok | ⟨rfl, -⟩
    · exact moves_transition (by decide) (fun _ => ⟨(by intro h; cases h), rfl, rfl⟩) hok hreached
    · exact .refl id db'
  | rcDelegated reference time =>
    rcases CallOutcome.db_cases h with hok | ⟨rfl, -⟩
    · simp only [markRcDelegated, bind_eq_ok, exists_unit] at hok
      exact moves_transition (by decide) (fun _ => ⟨(by intro h; cases h), rfl, rfl⟩) hok.2 hreached
    · exact .refl id db'

/-- **An acknowledged transition** takes the job one state on. -/
theorem reached_transition {n : ℕ} {q : Request} {u : q.Response} (hq : q.IsTransition id n)
    (hreached : Reached id n db) (h : answer q db (.ok u) db') : Reached id (n + 1) db' := by
  cases hq with
  | accountCreationPending reference time =>
    exact hreached.acknowledged h rfl fun state => by cases state <;> decide
  | accountCreated transactionId time =>
    exact hreached.acknowledged h rfl fun state => by cases state <;> decide
  | rcDelegationPending time =>
    exact hreached.acknowledged h rfl fun state => by cases state <;> decide
  | rcDelegated reference time =>
    exact hreached.acknowledged h rfl fun state => by cases state <;> decide

end Answers

/-! ### The program -/

section Program

variable {id : Uuid} {α : Type} {Q : Except Failure α → Db → Prop} {db : Db} {n : ℕ}

/-- Safety of a coordinator of the job beside others. -/
abbrev ProvisionerSafe (id : Uuid) (p : Provisioner α) (Q : Except Failure α → Db → Prop) (db : Db) :
    Prop :=
  p.Safe (Moves id) answer (fun _ => Moves id) Q db

/-- What a call knows of the database: the invariant, how far the job has come at least, and keys
once it has ensured them. -/
structure Knows (id : Uuid) (n : ℕ) (keys : Prop) (db : Db) : Prop where
  inv : Inv id db
  reached : Reached id n db
  hasKeys : keys → ∀ role, HasKey id role db

theorem Knows.moves {keys : Prop} {db' : Db} (h : Knows id n keys db) (hmoves : Moves id db db') :
    Knows id n keys db' := by
  obtain ⟨hinv, hreached, hkeys⟩ := hmoves h.inv
  exact ⟨hinv, hreached n h.reached, fun hk role => hkeys role (h.hasKeys hk role)⟩

theorem Knows.keysReady (h : Knows id n True db) : Knows id 2 True db := by
  obtain ⟨key, hkey, hact, -⟩ := h.hasKeys trivial .owner
  exact ⟨h.inv, h.inv.keys ⟨key, hkey, hact.1⟩, h.hasKeys⟩

theorem safe_read {q : Request} {f : q.Response → Provisioner α} {keys : Prop} (hq : q.IsRead)
    (h : Knows id n keys db)
    (hok : ∀ a db', Knows id n keys db' → answer q db' (.ok a) db' → ProvisionerSafe id (f a) Q db')
    (herr : ∀ e db', Inv id db' → Q (.error e) db') :
    ProvisionerSafe id ((Prog.request q).bind f) Q db := by
  refine Prog.safe_request_bind fun s₁ hs₁ r s₂ hans => ?_
  obtain rfl := answer_read hq hans
  have hknows := h.moves hs₁
  refine ⟨.refl id s₂, ?_⟩
  cases r with
  | ok a => exact hok a s₂ hknows hans
  | error e => exact herr e s₂ hknows.inv

theorem safe_transition {q : Request} {f : q.Response → Provisioner α} {keys : Prop}
    (hq : q.IsTransition id n) (h : Knows id n keys db)
    (hok : ∀ a db', Knows id (n + 1) keys db' → ProvisionerSafe id (f a) Q db')
    (herr : ∀ e db', Inv id db' → Q (.error e) db') :
    ProvisionerSafe id ((Prog.request q).bind f) Q db := by
  refine Prog.safe_request_bind fun s₁ hs₁ r s₂ hans => ?_
  have hmoves := answer_transition hq hans
  have hbefore := h.moves hs₁
  have hknows := hbefore.moves hmoves
  refine ⟨hmoves, ?_⟩
  cases r with
  | ok a => exact hok a s₂ ⟨hknows.inv, reached_transition hq hbefore.reached hans, hknows.hasKeys⟩
  | error e => exact herr e s₂ hknows.inv

/-- How a part of an attempt ends: where it did not fail, the job has come as far as `n`. -/
def Ends (id : Uuid) (n : ℕ) {β : Type} (r : Except Failure β) (db : Db) : Prop :=
  Inv id db ∧ ∀ b, r = .ok b → Knows id n True db

theorem ends_error {β : Type} (e : Failure) (db : Db) (h : Inv id db) :
    Ends id n (.error e : Except Failure β) db :=
  ⟨h, nofun⟩

theorem Knows.ends {β : Type} {b : β} (h : Knows id n True db) : Ends id n (.ok b) db :=
  ⟨h.inv, fun _ _ => h⟩

theorem safe_last_transition {q : Request} (hq : q.IsTransition id n) (h : Knows id n True db) :
    ProvisionerSafe id (Prog.request q) (Ends id (n + 1)) db := by
  refine Prog.safe_request fun s₁ hs₁ r s₂ hans => ?_
  have hmoves := answer_transition hq hans
  have hbefore := h.moves hs₁
  have hknows := hbefore.moves hmoves
  refine ⟨hmoves, hknows.inv, fun u hr => ?_⟩
  subst hr
  exact ⟨hknows.inv, reached_transition hq hbefore.reached hans, hknows.hasKeys⟩

theorem keyMapFrom_roles :
    ∀ {keys : List CustodyKeyReference} {entries result : KeyMap},
      keyMapFrom entries keys = .ok result → ∀ role ∈ result.map (·.1),
        role ∈ entries.map (·.1) ∨ ∃ key ∈ keys, key.authorityRole = role
  | [], entries, result, hok, role, hrole => by
    obtain rfl : entries = result := by simpa [keyMapFrom] using hok
    exact .inl hrole
  | key :: keys, entries, result, hok, role, hrole => by
    simp only [keyMapFrom, bind_eq_ok, exists_unit] at hok
    rcases keyMapFrom_roles hok.2 role hrole with hin | ⟨k, hk, hrole⟩
    · rw [List.map_append] at hin
      rcases List.mem_append.mp hin with hin | hin
      · exact .inl hin
      · exact .inr ⟨key, List.mem_cons_self, (List.mem_singleton.mp hin).symm⟩
    · exact .inr ⟨k, List.mem_cons_of_mem key hk, hrole⟩

theorem keyMap_roles {keys : List CustodyKeyReference} {entries : KeyMap}
    (hok : keyMap keys = .ok entries) (role : HiveAuthorityRole) :
    ∃ key ∈ keys, key.authorityRole = role := by
  simp only [keyMap, bind_eq_ok, exists_unit, require_eq_ok, pure_eq_ok] at hok
  obtain ⟨result, hresult, hroles, rfl⟩ := hok
  have hin : role ∈ authorityRoles := by cases role <;> decide
  rcases keyMapFrom_roles hresult role (hroles role hin) with hnone | h
  · exact absurd hnone List.not_mem_nil
  · exact h

/-- The keys that `getKeys` returns are the stored ones. -/
theorem hasKey_of_getKeys {keys : List CustodyKeyReference} (hperm : keys.Perm (getKeys id db))
    {key : CustodyKeyReference} (hkey : key ∈ keys) : HasKey id key.authorityRole db := by
  obtain ⟨row, hrow, rfl⟩ := List.mem_map.mp (hperm.mem_iff.mp hkey)
  simp only [List.mem_filter, Bool.and_eq_true, Bool.or_eq_true, decide_eq_true_eq] at hrow
  exact ⟨row, hrow.1, hrow.2, rfl⟩

theorem saveKeys_safe {keys : List CustodyKeyReference} {now : Timestamp}
    (h : Knows id n False db) :
    ProvisionerSafe id (Repository.saveKeys id keys now) (Ends id n) db := by
  refine safe_read (.saveKeys id keys now) h ?_ ends_error
  intro added db₁ h₁ hans
  obtain ⟨-, ⟨ids, hok⟩ | hlost⟩ := hans
  swap
  · cases hlost
  obtain ⟨hnew, hcover⟩ := saveKeys_spec h₁.inv.roles hok.symm
  refine Prog.safe_request fun s₁ hs₁ r s₂ hcommit => ?_
  obtain ⟨hinv, hforward, hkept⟩ := hs₁ h₁.inv
  have hreached : ∀ n, Reached id n s₁ → Reached id n s₂ := fun n hn => hn.answer hcommit
  rcases CallOutcome.db_cases hcommit with hok | ⟨rfl, e, rfl⟩
  · have hready : Reached id 1 s₁ → Reached id 2 s₂ := fun hstarted =>
      hstarted.acknowledged (q := .saveKeysCommit id added now) (u := ()) (.committed hok) rfl
        fun state => by cases state <;> decide
    obtain ⟨hmoves, hadded⟩ := moves_saveKeysCommit hnew hok hreached hready
    obtain ⟨hinv', -, hkept'⟩ := hmoves hinv
    refine ⟨hmoves, hinv', fun _ _ => ⟨hinv', hreached n (hforward n h₁.reached), fun _ role => ?_⟩⟩
    rcases hcover role with hkey | ⟨key, hkey, rfl⟩
    · exact hkept' role (hkept role hkey)
    · exact hadded key hkey
  · exact ⟨.refl id s₂, ends_error e s₂ hinv⟩

theorem ensureKeys_safe {job : ProvisioningJob} {now : Timestamp} (hid : job.id = id)
    (h : Knows id n False db) : ProvisionerSafe id (ensureKeys job now) (Ends id n) db := by
  obtain rfl := hid
  refine safe_read (.getKeys job.id) h ?_ ends_error
  intro existing db₁ h₁ hans
  obtain ⟨-, ⟨_, heq, hperm⟩ | hlost⟩ := hans
  swap
  · cases hlost
  obtain rfl := Except.ok.inj heq
  by_cases hfour : existing.length = authorityRoles.length
  · rw [if_pos hfour]
    cases hmap : keyMap existing with
    | error e => exact ends_error e db₁ h₁.inv
    | ok entries =>
      refine ⟨h₁.inv, fun _ _ => ⟨h₁.inv, h₁.reached, fun _ role => ?_⟩⟩
      obtain ⟨key, hkey, rfl⟩ := keyMap_roles hmap role
      exact hasKey_of_getKeys hperm hkey
  rw [if_neg hfour]
  by_cases hsome : existing.length ≠ 0
  · rw [if_pos hsome]
    exact ends_error _ db₁ h₁.inv
  rw [if_neg hsome]
  refine safe_read (.generateAuthorityKeys _ _ _) h₁ ?_ ends_error
  intro generated db₂ h₂ _
  cases hmap : keyMap generated with
  | error e => exact ends_error e db₂ h₂.inv
  | ok entries =>
    show ProvisionerSafe job.id
      ((Repository.saveKeys job.id generated now).bind fun _ => .ret generated) _ db₂
    refine Prog.safe_bind (Prog.safe_mono (saveKeys_safe h₂) ?_)
    rintro (e | ⟨⟩) db₃ h₃
    · exact ends_error e db₃ h₃.1
    · exact (h₃.2 () rfl).ends

theorem createAccount_safe {job : ProvisioningJob} {keys : KeyMap} {now : Timestamp}
    (hid : job.id = id) (h : Knows id 2 True db) :
    ProvisionerSafe id (createAccount job keys now) (Ends id 4) db := by
  obtain rfl := hid
  refine safe_read (.createClaimedAccount _ _ _ _ _) h ?_ ends_error
  intro account db₁ h₁ _
  refine safe_transition (.accountCreationPending _ _) h₁ ?_ ends_error
  intro _ db₂ h₂
  refine safe_read (.verifyReady _ _ _) h₂ ?_ ends_error
  intro verification db₃ h₃ _
  split
  · exact ends_error _ db₃ h₃.inv
  · exact safe_last_transition (.accountCreated _ _) h₃

theorem delegateCredits_safe {job : ProvisioningJob} {now : Timestamp} (hid : job.id = id)
    (h : Knows id 4 True db) : ProvisionerSafe id (delegateCredits job now) (Ends id 6) db := by
  obtain rfl := hid
  refine safe_transition (.rcDelegationPending _) h ?_ ends_error
  intro _ db₁ h₁
  refine safe_read (.delegateInitialResourceCredits _ _ _ _) h₁ ?_ ends_error
  intro reference db₂ h₂ _
  exact safe_last_transition (.rcDelegated _ _) h₂

/-- What a call that returns a ready job promises. -/
def Returned (id : Uuid) (r : Except Failure ProvisioningJob) (db : Db) : Prop :=
  Inv id db ∧ ∀ job, r = .ok job → job.state = .ready → Ready id db

theorem progress_of_not_accountStates {state : ProvisioningState}
    (hopen : ¬ (state = .ready ∨ state = .terminalFailed)) (hstate : state ∉ accountStates) :
    4 ≤ progress state := by
  cases state with
  | ready => exact absurd (.inl rfl) hopen
  | terminalFailed => exact absurd (.inr rfl) hopen
  | accountCreated | rcDelegationPending | rcDelegated => decide
  | usernameConfirmed | keysReady | accountCreationPending | retryableFailed =>
    exact absurd (by decide) hstate

/-- **An attempt** carries what it knows of the job from step to step: the state that it read, its
keys, its account, its delegation. -/
theorem attempt_safe {job : ProvisioningJob} {now : Timestamp} (hid : job.id = id)
    (hopen : ¬ (job.state = .ready ∨ job.state = .terminalFailed))
    (h : Knows id (progress job.state) False db) :
    ProvisionerSafe id (attempt job now) (Returned id) db := by
  have hfail : ∀ (e : Failure) (db : Db), Inv id db → Returned id (.error e) db := fun e db h =>
    ⟨h, nofun⟩
  refine Prog.safe_bind (Prog.safe_mono (ensureKeys_safe hid h) ?_)
  rintro (e | references) db₁ h₁
  · exact hfail e db₁ h₁.1
  have h₁ := h₁.2 references rfl
  refine Prog.safe_bind (Prog.safe_lift.mpr ?_)
  cases keyMap references with
  | error e => exact hfail e db₁ h₁.inv
  | ok keys =>
    -- the account is there: this call has created it, or it was there when the call read the job
    have haccount : ProvisionerSafe id
        (if job.state ∈ accountStates then createAccount job keys now else pure ())
        (fun r db => Ends id 4 r db ∧ (r = .ok () → Knows id (progress job.state) True db)) db₁ := by
      by_cases hstate : job.state ∈ accountStates
      · rw [if_pos hstate]
        have hlow : ∀ state ∈ accountStates, progress state ≤ 4 := by decide
        refine Prog.safe_mono (createAccount_safe hid h₁.keysReady) fun r db h => ⟨h, fun hr => ?_⟩
        have hknows := h.2 () hr
        exact ⟨hknows.inv, hknows.reached.mono (hlow job.state hstate), hknows.hasKeys⟩
      · rw [if_neg hstate]
        have hhigh := progress_of_not_accountStates hopen hstate
        exact ⟨Knows.ends ⟨h₁.inv, h₁.reached.mono hhigh, h₁.hasKeys⟩, fun _ => h₁⟩
    refine Prog.safe_bind (Prog.safe_mono haccount ?_)
    rintro (e | ⟨⟩) db₂ ⟨h₂, hread⟩
    · exact hfail e db₂ h₂.1
    have hcredits : ProvisionerSafe id
        (if job.state ≠ .rcDelegated then delegateCredits job now else pure ()) (Ends id 6) db₂ := by
      by_cases hstate : job.state ≠ .rcDelegated
      · rw [if_pos hstate]
        exact delegateCredits_safe hid (h₂.2 () rfl)
      · rw [if_neg hstate]
        have hknows := hread rfl
        rw [not_not.mp hstate] at hknows
        exact hknows.ends
    refine Prog.safe_bind (Prog.safe_mono hcredits ?_)
    rintro (e | ⟨⟩) db₃ h₃
    · exact hfail e db₃ h₃.1
    refine safe_read (.verifyReady _ _ _) (h₃.2 () rfl) ?_ hfail
    intro verification db₄ h₄ _
    split
    · exact hfail _ db₄ h₄.inv
    -- the last write finishes the job, and nothing else ends with a ready job
    refine Prog.safe_request_bind fun s₁ hs₁ r s₂ hans => ?_
    have hknows := h₄.moves hs₁
    have hreached : ∀ n, Reached id n s₁ → Reached id n s₂ := fun n hn => hn.answer hans
    obtain ⟨playerId, houtcome⟩ := hans
    subst hid
    rcases CallOutcome.db_cases houtcome with hok | ⟨rfl, e, rfl⟩
    · obtain ⟨hmoves, hready⟩ :=
        moves_markReady hknows.reached (hknows.hasKeys trivial) hok hreached
      refine ⟨hmoves, ?_⟩
      cases r with
      | ok u => exact ⟨(hmoves hknows.inv).1, fun _ _ _ => hready⟩
      | error e => exact hfail e s₂ (hmoves hknows.inv).1
    · exact ⟨.refl _ s₂, hfail e s₂ hknows.inv⟩

theorem Inv.knows (h : Inv id db) : Knows id 1 False db := ⟨h, h.started, False.elim⟩

theorem recordFailure_safe {job : ProvisioningJob} {now : Timestamp} {error : Failure}
    (h : Inv id db) : ProvisionerSafe id (recordFailure job now error) (Returned id) db := by
  refine safe_read (.markRetryableFailure _ _ _) h.knows ?_ fun e db h => ⟨h, nofun⟩
  exact fun _ db h _ => ⟨h.inv, nofun⟩

/-- **One call of `process`** returns a ready job only if the stored job is ready. -/
theorem process_safe {now : Timestamp} (h : Inv id db) :
    ProvisionerSafe id (process id now) (Returned id) db := by
  refine safe_read (.getJobForUpdate id) h.knows ?_ fun e db h => ⟨h, nofun⟩
  intro found db₁ h₁ hans
  obtain ⟨-, hfound | hlost⟩ := hans
  swap
  · cases hlost
  obtain rfl : found = getJobForUpdate id db₁ := Except.ok.inj hfound
  obtain ⟨row, hfind, -⟩ := h₁.inv.bound
  have hjob : getJobForUpdate id db₁ = some (mapJob row) := by
    unfold getJobForUpdate
    rw [hfind]
    rfl
  rw [hjob]
  dsimp only
  obtain ⟨-, hid⟩ := Table.find?_eq_some.mp hfind
  by_cases hopen : (mapJob row).state = .ready ∨ (mapJob row).state = .terminalFailed
  · rw [if_pos hopen]
    refine ⟨h₁.inv, fun job hret hready => ?_⟩
    obtain rfl := Except.ok.inj hret
    exact (ready_iff hfind).mpr hready
  · rw [if_neg hopen]
    have hread : Reached id (progress row.state) db₁ :=
      ⟨row.state, stageOf_of_find hfind, le_rfl⟩
    refine Prog.safe_orElse (Prog.safe_mono
      (attempt_safe hid hopen ⟨h₁.inv, hread, False.elim⟩) ?_)
    rintro (e | job) db₂ h₂
    · exact recordFailure_safe h₂.1
    · exact h₂

theorem Moves.ready {db' : Db} (h : Moves id db db') (hinv : Inv id db) (hready : Ready id db) :
    Ready id db' :=
  ready_iff_reached.mpr ((h hinv).2.1 7 (ready_iff_reached.mp hready))

theorem Returned.moves {r : Except Failure ProvisioningJob} {db' : Db} (h : Returned id r db)
    (hmoves : Moves id db db') : Returned id r db' :=
  ⟨(hmoves h.1).1, fun job hr hs => hmoves.ready h.1 (h.2 job hr hs)⟩

end Program

/-! ### Any number of calls -/

/-- Calls on one job and the database they share. -/
abbrev ProvisioningSys (ι : Type) := Sys Request Request.Response Failure ProvisioningJob Db ι

/-- What other components do leaves the rows of the job as they are. -/
structure Elsewhere (id : Uuid) (db db' : Db) : Prop where
  provisioning : db'.provisioning.find? id = db.provisioning.find? id
  identity : ∀ job, db.provisioning.find? id = some job → ∀ identity : ExternalIdentityRow,
    identity.id = job.externalIdentityId → identity ∈ db.externalIdentity →
      identity ∈ db'.externalIdentity
  keys : db'.custodyKey.rows.filter (fun k => k.provisioningId = id) =
    db.custodyKey.rows.filter (fun k => k.provisioningId = id)

/-- One step: a call on the job gets an answer or is started over, or something else moves. -/
def ProvisioningStep {ι : Type} [DecidableEq ι] (id : Uuid) (now : ι → Timestamp) :
    ProvisioningSys ι → SysLabel Request Request.Response Failure ι → ProvisioningSys ι → Prop :=
  SysStep (Elsewhere id) answer fun i => process id (now i)

def ProvisioningSys.start {ι : Type} (id : Uuid) (now : ι → Timestamp) (db : Db) :
    ProvisioningSys ι :=
  ⟨db, fun i => process id (now i)⟩

/-- A job as `confirmUsername` creates it. -/
structure Created (id : Uuid) (db : Db) : Prop where
  job : ∃ job, db.provisioning.find? id = some job ∧ job.state = .usernameConfirmed ∧
    job.resultingPlayerId = none ∧ ∃ identity ∈ db.externalIdentity,
      identity.id = job.externalIdentityId ∧ identity.status = .provisioning ∧
        identity.playerId = none
  keys : ∀ key ∈ db.custodyKey, key.provisioningId ≠ id

/-- **A run is consistent**: the job is bound in every state, stays ready, and a call
returns a ready job only when the stored job is ready. -/
structure Consistent {ι : Type} (id : Uuid)
    (ts : List (Transition (ProvisioningSys ι) (SysLabel Request Request.Response Failure ι))) :
    Prop where
  bound : ∀ t ∈ ts, Bound id t.post.shared
  ready_stays : ∀ t ∈ ts, Ready id t.pre.shared → Ready id t.post.shared
  returned : ∀ t ∈ ts, ∀ i job, t.post.procs i = .ret job → job.state = .ready →
    Ready id t.post.shared

section Runs

variable {ι : Type} [DecidableEq ι] {id : Uuid} {now : ι → Timestamp} {db db' : Db}

theorem rolesUnique_filter {rows : List CustodyKeyRow} :
    RolesUnique id rows ↔ RolesUnique id (rows.filter fun k => k.provisioningId = id) := by
  unfold RolesUnique
  rw [List.pairwise_filter]
  refine List.Pairwise.iff fun {k k'} => ?_
  constructor
  · exact fun h _ _ => h
  · intro h hsame
    exact h (decide_eq_true hsame.1) (decide_eq_true hsame.2.1) hsame

theorem Elsewhere.moves (h : Elsewhere id db db') : Moves id db db' := by
  have hkeys : ∀ k : CustodyKeyRow, k.provisioningId = id →
      (k ∈ db'.custodyKey ↔ k ∈ db.custodyKey) := by
    intro k hk
    have hmem : ∀ rows : List CustodyKeyRow,
        k ∈ rows.filter (fun k => k.provisioningId = id) ↔ k ∈ rows := fun rows => by
      simp [List.mem_filter, hk]
    rw [Table.mem_def, Table.mem_def, ← hmem, h.keys, hmem]
  have hstage : stageOf id db' = stageOf id db := by rw [stageOf, h.provisioning, stageOf]
  have hreached : ∀ n, Reached id n db → Reached id n db' := fun n hn => hn.congr hstage
  intro hinv
  obtain ⟨job, hfind, hfinished, hunfinished⟩ := hinv.bound
  obtain ⟨-, hid⟩ := Table.find?_eq_some.mp hfind
  have hfind' := h.provisioning.trans hfind
  refine ⟨⟨⟨job, hfind', fun hready => ?_, fun hnot => ?_⟩, ?_, hreached 1 hinv.started, ?_⟩, hreached,
    fun role => ?_⟩
  · obtain ⟨player, hf⟩ := hfinished hready
    obtain ⟨identity, hin, hrest⟩ := hf.identity
    refine ⟨player, hf.resulting, ⟨identity, h.identity job hfind identity hrest.1 hin, hrest⟩,
      fun role => ?_, fun key hkey hprov => ?_⟩
    · obtain ⟨key, hkey, hprov, hrole⟩ := hf.keys role
      exact ⟨key, (hkeys key (hprov.trans hid)).mpr hkey, hprov, hrole⟩
    · exact hf.active key ((hkeys key (hprov.trans hid)).mp hkey) hprov
  · have hu := hunfinished hnot
    obtain ⟨identity, hin, hrest⟩ := hu.identity
    exact ⟨hu.resulting, ⟨identity, h.identity job hfind identity hrest.1 hin, hrest⟩,
      fun key hkey hprov => hu.generated key ((hkeys key (hprov.trans hid)).mp hkey) hprov⟩
  · rw [rolesUnique_filter, h.keys, ← rolesUnique_filter]
    exact hinv.roles
  · rintro ⟨key, hkey, hprov⟩
    exact hreached 2 (hinv.keys ⟨key, (hkeys key hprov).mp hkey, hprov⟩)
  · rintro ⟨key, hkey, hact, hrole⟩
    exact ⟨key, (hkeys key hact.1).mpr hkey, hact, hrole⟩

theorem Created.inv (h : Created id db) : Inv id db := by
  obtain ⟨job, hfind, hstate, hresulting, hidentity⟩ := h.job
  obtain ⟨-, hid⟩ := Table.find?_eq_some.mp hfind
  refine ⟨⟨job, hfind, fun hready => ?_, fun _ => ⟨hresulting, hidentity, fun key hkey hprov => ?_⟩⟩, ?_,
    ⟨job.state, stageOf_of_find hfind, ?_⟩, fun ⟨key, hkey, hprov⟩ => absurd hprov (h.keys key hkey)⟩
  · cases hstate.symm.trans hready
  · exact absurd (hprov.trans hid) (h.keys key hkey)
  · refine List.pairwise_of_forall_mem_list fun k hk k' _ hsame => ?_
    exact h.keys k hk hsame.1
  · rw [hstate]
    decide

/-- The states of the calls that their programs keep safe. -/
abbrev Safe (id : Uuid) (S : ProvisioningSys ι) : Prop :=
  SysSafe (Moves id) answer (fun _ => Moves id) (Inv id) (Returned id) S

/-- **One step** keeps the calls safe and a ready job ready. -/
theorem safe_step {S S' : ProvisioningSys ι} {l : SysLabel Request Request.Response Failure ι}
    (hsafe : Safe id S) (hstep : ProvisioningStep id now S l S') :
    Safe id S' ∧ (Ready id S.shared → Ready id S'.shared) := by
  have hstep' : SysStep (Moves id) answer (fun i => process id (now i)) S l S' := by
    cases hstep with
    | env h => exact .env h.moves
    | answer i hp h => exact .answer i hp h
    | restart i => exact .restart i
  have htrans : ∀ a b c : Db, Moves id a b → Moves id b c → Moves id a c := fun _ _ _ => .trans
  have hreturned : ∀ r (a b : Db), Moves id a b → Returned id r a → Returned id r b :=
    fun _ _ _ hmoves hr => hr.moves hmoves
  have hinv : ∀ a b : Db, Moves id a b → Inv id a → Inv id b := fun _ _ hmoves hi => (hmoves hi).1
  obtain ⟨hpost, hmoves⟩ := sysSafe_step htrans hreturned hinv (fun _ => hinv)
    (fun _ _ _ _ _ _ h => h) (fun _ _ hi => process_safe hi) (fun db => .refl id db) hsafe hstep'
  refine ⟨hpost, ?_⟩
  cases hstep' with
  | env h => exact h.ready hsafe.1
  | answer i hp h => exact (hmoves i _ _ rfl).ready hsafe.1
  | restart i => exact fun h => h

/-- **Provisioning is consistent**: over every run of any number of calls on a created job, with
failures and crashes anywhere. -/
theorem consistent_of_run (hcreated : Created id db) {S : ProvisioningSys ι}
    {ts : List (Transition (ProvisioningSys ι) (SysLabel Request Request.Response Failure ι))}
    (hrun : Run (ProvisioningStep id now) (ProvisioningSys.start id now db) ts S) :
    Consistent id ts := by
  have hinit : Safe id (ProvisioningSys.start id now db) :=
    ⟨hcreated.inv, fun i => process_safe hcreated.inv⟩
  obtain ⟨-, hall⟩ := hrun.invariant' (I := Safe id) (fun m l m' hm hl => (safe_step hm hl).1) hinit
  refine ⟨fun t ht => (hall t ht).2.1.bound, fun t ht => ?_, fun t ht i job hret hready => ?_⟩
  · exact (safe_step (hall t ht).1 (hrun.step_of_mem t ht)).2
  · have hend := (hall t ht).2.2 i
    rw [hret] at hend
    exact hend.2 job rfl hready

end Runs

/-! ### Two calls -/

/-- What the providers say when they are asked. -/
structure Reply where
  keys : List CustodyKeyReference
  account : ClaimedAccount
  delegation : String
  verification : Verification

def acknowledged (result : Except Failure Db) (db : Db) : Except Failure Unit × Db :=
  match result with
  | .ok db' => (.ok (), db')
  | .error e => (.error e, db)

theorem acknowledged_outcome (result : Except Failure Db) (db : Db) :
    CallOutcome result db (acknowledged result db).1 (acknowledged result db).2 := by
  unfold acknowledged
  split
  · exact .committed rfl
  · exact .refused rfl

/-- Answers a request, with no failure of the connection. -/
def serve (reply : Reply) (q : Request) (db : Db) : Except Failure q.Response × Db :=
  match q with
  | .getJobForUpdate id => (.ok (getJobForUpdate id db), db)
  | .getKeys id => (.ok (getKeys id db), db)
  | .saveKeys id keys time =>
    (saveKeys (fun drawn => ⟨db.custodyKey.rows.length + drawn⟩) id keys time db, db)
  | .saveKeysCommit id added time => acknowledged (saveKeysCommit id added time db) db
  | .markAccountCreationPending id reference time =>
    acknowledged (markAccountCreationPending id reference time db) db
  | .markAccountCreated id transactionId time =>
    acknowledged (markAccountCreated id transactionId time db) db
  | .markRcDelegationPending id time => acknowledged (markRcDelegationPending id time db) db
  | .markRcDelegated id reference time => acknowledged (markRcDelegated id reference time db) db
  | .markReady id time => acknowledged (markReady ⟨db.player.rows.length⟩ id time db) db
  | .markRetryableFailure id code time => acknowledged (markRetryableFailure id code time db) db
  | .generateAuthorityKeys _ _ _ => (.ok reply.keys, db)
  | .createClaimedAccount _ _ _ _ _ => (.ok reply.account, db)
  | .delegateInitialResourceCredits _ _ _ _ => (.ok reply.delegation, db)
  | .verifyReady _ _ _ => (.ok reply.verification, db)

theorem serve_answers (reply : Reply) (q : Request) (db : Db) :
    answer q db (serve reply q db).1 (serve reply q db).2 := by
  cases q with
  | getJobForUpdate id => exact ⟨rfl, .inl rfl⟩
  | getKeys id => exact ⟨rfl, .inl ⟨_, rfl, .refl _⟩⟩
  | saveKeys id keys time => exact ⟨rfl, .inl ⟨_, rfl⟩⟩
  | saveKeysCommit id added time => exact acknowledged_outcome _ db
  | markAccountCreationPending id reference time => exact acknowledged_outcome _ db
  | markAccountCreated id transactionId time => exact acknowledged_outcome _ db
  | markRcDelegationPending id time => exact acknowledged_outcome _ db
  | markRcDelegated id reference time => exact acknowledged_outcome _ db
  | markReady id time => exact ⟨_, acknowledged_outcome _ db⟩
  | markRetryableFailure id code time => exact acknowledged_outcome _ db
  | generateAuthorityKeys key id roles => rfl
  | createClaimedAccount key keys policy sponsor username => rfl
  | delegateInitialResourceCredits key policy sponsor username => rfl
  | verifyReady keys sponsor username => rfl

def exampleJob : ProvisioningRow where
  id := ⟨1⟩
  externalIdentityId := ⟨2⟩
  resultingPlayerId := none
  idempotencyKey := "provision"
  requestedHiveUsername := "newplayer"
  state := .usernameConfirmed
  sponsorProgram := "signup"
  sponsorPolicyVersion := "v1"
  sponsorHiveAccount := "sponsor"
  sponsorRequestReference := none
  accountCreationTransactionId := none
  initialRcDelegationId := none
  usernameConfirmedAt := 0
  keysReadyAt := none
  accountObservedAt := none
  accountIrreversibleAt := none
  authoritiesVerifiedAt := none
  rcVerifiedAt := none
  attemptCount := 0
  lastAttemptAt := none
  nextRetryAt := none
  lastFailureCode := none
  readyAt := none
  updatedAt := 0
  rowVersion := 1

def exampleIdentity : ExternalIdentityRow where
  id := ⟨2⟩
  verifiedIssuer := "https://accounts.google.com"
  subjectLookupHash := "subject"
  playerId := none
  status := .provisioning
  verifiedAt := 0
  linkedAt := none
  lastAuthenticatedAt := 0
  updatedAt := 0

def exampleDb : Db where
  provisioning := ⟨[exampleJob], by decide⟩
  custodyKey := .empty
  externalIdentity := ⟨[exampleIdentity], by decide⟩
  player := .empty
  disclosureAcknowledgment := .empty
  rcDelegation := ["delegation"]

theorem exampleDb_created : Created ⟨1⟩ exampleDb where
  job := ⟨exampleJob, by decide, rfl, rfl, _, List.mem_singleton_self _, rfl, rfl, rfl⟩
  keys := fun _ hkey => absurd hkey List.not_mem_nil

/-- The providers answer; the chain shows the account, or not yet. -/
def exampleReply (visible : Bool) : Reply where
  keys := [⟨.owner, "STM1", "k1"⟩, ⟨.active, "STM2", "k2"⟩, ⟨.posting, "STM3", "k3"⟩,
    ⟨.memo, "STM4", "k4"⟩]
  account := ⟨"request", "transaction"⟩
  delegation := "delegation"
  verification := ⟨visible, true, true⟩

/-- Two calls, started at the times 100 and 200. -/
def exampleClock (second : Bool) : Timestamp := if second then 200 else 100

def scheduled (schedule : List (Bool × Reply)) : ProvisioningSys Bool :=
  (ProvisioningSys.start ⟨1⟩ exampleClock exampleDb).follow serve
    (fun i => process ⟨1⟩ (exampleClock i)) schedule

theorem scheduled_run (schedule : List (Bool × Reply)) :
    ∃ ts, Run (ProvisioningStep ⟨1⟩ exampleClock) (.start ⟨1⟩ exampleClock exampleDb) ts
      (scheduled schedule) :=
  Sys.follow_run serve_answers schedule _

/-- The first call delegates the credits and sees the account; the second call does not see it, fails
to record that, and fails; then the first call finishes. -/
def failingBeside : List (Bool × Reply) :=
  List.replicate 13 (false, exampleReply true) ++ List.replicate 4 (true, exampleReply false) ++
    [(false, exampleReply true)]

/-- The job ends ready, with its keys active, beside the call that failed. -/
theorem consistent_of_run_failing :
    ∃ ts, Run (ProvisioningStep ⟨1⟩ exampleClock) (.start ⟨1⟩ exampleClock exampleDb) ts
        (scheduled failingBeside) ∧
      Consistent ⟨1⟩ ts ∧
      (scheduled failingBeside).shared.provisioning.rows.map (·.state) = [.ready] ∧
      (∀ key ∈ (scheduled failingBeside).shared.custodyKey.rows, key.state = .active) ∧
      (scheduled failingBeside).procs true = .throw (.error
        ("column \"next_retry_at\" is of type timestamp with time zone but expression is of " ++
          "type interval")) := by
  obtain ⟨ts, hrun⟩ := scheduled_run failingBeside
  exact ⟨ts, hrun, consistent_of_run exampleDb_created hrun, by decide +kernel, by decide +kernel, rfl⟩

end HiveChameleon.Provisioning
