import HiveChameleon.Provisioning.Safety

/-!
# Provisioning.Calls — what the calls of a job tell the custody, sponsor and chain services

The log of all exchanges of the calls that process one job.  The custody provider is idempotent:
one list of references for each idempotency key.  Then every account creation of the job carries
the stored keys, every delegation follows a verification of them, and so does every `markReady`.
-/

namespace HiveChameleon.Provisioning

open Gateway Lib

/-! ### The log -/

/-- A request and its answer. -/
abbrev Exchange := (q : Request) × Except Failure q.Response

/-- The database, and the exchanges of the job's calls, oldest first. -/
structure Observed where
  db : Db
  calls : List Exchange

/-- An idempotent custody provider gives one list of references for each key, or fails. -/
def Custodial (custody : String → List CustodyKeyReference) :
    (q : Request) → Except Failure q.Response → Prop
  | .generateAuthorityKeys key _ _, r => ∀ keys, r = .ok keys → keys = custody key
  | _, _ => True

/-- How a request is answered, with its place in the log. -/
def answerObserved (custody : String → List CustodyKeyReference) (q : Request) (s : Observed)
    (r : Except Failure q.Response) (s' : Observed) : Prop :=
  answer q s.db r s'.db ∧ Custodial custody q r ∧ s'.calls = s.calls ++ [⟨q, r⟩]

/-- What other components do leaves the job and its keys as they are. -/
structure Apart (id : Uuid) (s s' : Observed) : Prop where
  provisioning : s'.db.provisioning.find? id = s.db.provisioning.find? id
  keys : s'.db.custodyKey.rows.filter (fun k => k.provisioningId = id) =
    s.db.custodyKey.rows.filter (fun k => k.provisioningId = id)
  calls : s'.calls = s.calls

/-- Calls on one job, the database and the log. -/
abbrev ObservedSys (ι : Type) := Sys Request Request.Response Failure ProvisioningJob Observed ι

/-- One step: a call on the job gets an answer or is started over, or something else moves. -/
def ObservedStep {ι : Type} [DecidableEq ι] (custody : String → List CustodyKeyReference) (id : Uuid)
    (now : ι → Timestamp) :
    ObservedSys ι → SysLabel Request Request.Response Failure ι → ObservedSys ι → Prop :=
  SysStep (Apart id) (answerObserved custody) fun i => process id (now i)

def ObservedSys.start {ι : Type} (id : Uuid) (now : ι → Timestamp) (db : Db) : ObservedSys ι :=
  ⟨⟨db, []⟩, fun i => process id (now i)⟩

/-! ### The property -/

/-- The stored keys of a job. -/
def keyPairs (id : Uuid) (db : Db) : KeyMap :=
  (db.custodyKey.rows.filter fun k => k.provisioningId = id).map
    fun k => (k.authorityRole, k.hivePublicKey)

/-- The keys of the map are the stored keys of the job, one for each of the four roles. -/
def StoredKeys (id : Uuid) (keys : KeyMap) (db : Db) : Prop :=
  keys.Perm (keyPairs id db) ∧ (keys.map (·.1)).Perm authorityRoles

/-- The account is irreversible, with the authorities asked for. -/
def AccountVerified (v : Verification) : Prop :=
  v.accountIrreversible = true ∧ v.authoritiesMatch = true

/-- The account is irreversible, with the authorities asked for and its resource credits. -/
def ReadyVerified (v : Verification) : Prop :=
  v.accountIrreversible = true ∧ v.authoritiesMatch = true ∧ v.initialResourceCreditsReady = true

/-- A verification of the job's account for its stored keys has had an accepted answer. -/
def Verified (job : ProvisioningRow) (accepted : Verification → Prop) (s : Observed) : Prop :=
  ∃ keys v, StoredKeys job.id keys s.db ∧ accepted v ∧
    (⟨.verifyReady keys job.sponsorHiveAccount job.requestedHiveUsername, .ok v⟩ : Exchange) ∈ s.calls

/-- What a request of the job may say, and what it may follow. -/
def Permitted (job : ProvisioningRow) : Request → Observed → Prop
  | .createClaimedAccount key keys _ _ username, s =>
    key = job.idempotencyKey ++ ":account" ∧ username = job.requestedHiveUsername ∧
      StoredKeys job.id keys s.db
  | .delegateInitialResourceCredits key _ _ username, s =>
    key = job.idempotencyKey ++ ":initial-rc" ∧ username = job.requestedHiveUsername ∧
      Verified job AccountVerified s
  | .markReady _ _, s => Verified job ReadyVerified s
  | _, _ => True

/-- Every exchange of the log was permitted by those before it. -/
def LogPermitted (job : ProvisioningRow) (s : Observed) : Prop :=
  ∀ before exchange after, s.calls = before ++ exchange :: after →
    Permitted job exchange.1 ⟨s.db, before⟩

/-! ### The invariant -/

/-- The states that a job reaches only after a verification. -/
def verifiedStates : List ProvisioningState :=
  [.accountCreated, .rcDelegationPending, .rcDelegated, .ready]

/-- The stored keys are what the custody provider gave for the job, or there are none yet. -/
def KeysKept (custody : String → List CustodyKeyReference) (job : ProvisioningRow) (db : Db) : Prop :=
  keyPairs job.id db = [] ∨ keyMap (custody (job.idempotencyKey ++ ":keys")) = .ok (keyPairs job.id db)

/-- The invariant of the calls of a job. -/
structure CallsInv (custody : String → List CustodyKeyReference) (job : ProvisioningRow)
    (s : Observed) : Prop where
  row : ∃ row, s.db.provisioning.find? job.id = some row ∧ row.terms = job.terms ∧
    (row.state ∈ verifiedStates → Verified job AccountVerified s)
  keys : KeysKept custody job s.db
  usable : ∀ k ∈ s.db.custodyKey, k.provisioningId = job.id → activatable job.id k
  log : LogPermitted job s

/-- What any move does to the calls of a job: the invariant stays, the log grows, and stored keys
stay the same. -/
def Advances (custody : String → List CustodyKeyReference) (job : ProvisioningRow) (s s' : Observed) :
    Prop :=
  CallsInv custody job s → CallsInv custody job s' ∧ s.calls <+: s'.calls ∧
    (keyPairs job.id s.db ≠ [] → keyPairs job.id s'.db = keyPairs job.id s.db)

section Advances

variable {custody : String → List CustodyKeyReference} {job : ProvisioningRow}
variable {s s' s'' : Observed} {keys : KeyMap} {accepted : Verification → Prop}

theorem Advances.refl (custody : String → List CustodyKeyReference) (job : ProvisioningRow)
    (s : Observed) : Advances custody job s s :=
  fun h => ⟨h, List.prefix_refl _, fun _ => rfl⟩

theorem Advances.trans (h : Advances custody job s s') (h' : Advances custody job s' s'') :
    Advances custody job s s'' := by
  intro hinv
  obtain ⟨hinv', hcalls, hkeys⟩ := h hinv
  obtain ⟨hinv'', hcalls', hkeys'⟩ := h' hinv'
  refine ⟨hinv'', hcalls.trans hcalls', fun hne => ?_⟩
  have heq := hkeys hne
  rw [hkeys' (by rw [heq]; exact hne), heq]

theorem StoredKeys.ne_nil {id : Uuid} {db : Db} (h : StoredKeys id keys db) : keyPairs id db ≠ [] := by
  intro hnil
  have hempty : keys = [] := List.Perm.eq_nil (hnil ▸ h.1)
  have hroles := h.2.length_eq
  rw [hempty] at hroles
  exact absurd hroles (by decide)

theorem StoredKeys.of_pairs {id : Uuid} {db db' : Db} (h : StoredKeys id keys db)
    (hpairs : keyPairs id db' = keyPairs id db) : StoredKeys id keys db' :=
  ⟨hpairs ▸ h.1, h.2⟩

theorem Verified.mono (h : Verified job accepted s) (hcalls : s.calls ⊆ s'.calls)
    (hkeys : keyPairs job.id s.db ≠ [] → keyPairs job.id s'.db = keyPairs job.id s.db) :
    Verified job accepted s' := by
  obtain ⟨keys, v, hstored, haccepted, hmem⟩ := h
  exact ⟨keys, v, hstored.of_pairs (hkeys hstored.ne_nil), haccepted, hcalls hmem⟩

theorem Permitted.mono {q : Request} (h : Permitted job q s) (hcalls : s.calls ⊆ s'.calls)
    (hkeys : keyPairs job.id s.db ≠ [] → keyPairs job.id s'.db = keyPairs job.id s.db) :
    Permitted job q s' := by
  cases q with
  | createClaimedAccount key keys policy sponsor username =>
    obtain ⟨hkey, husername, hstored⟩ := h
    exact ⟨hkey, husername, hstored.of_pairs (hkeys hstored.ne_nil)⟩
  | delegateInitialResourceCredits key policy sponsor username =>
    obtain ⟨hkey, husername, hverified⟩ := h
    exact ⟨hkey, husername, hverified.mono hcalls hkeys⟩
  | markReady id time => exact Verified.mono h hcalls hkeys
  | _ => trivial

theorem LogPermitted.append {exchange : Exchange} (h : LogPermitted job s)
    (hkeys : keyPairs job.id s.db ≠ [] → keyPairs job.id s'.db = keyPairs job.id s.db)
    (hcalls : s'.calls = s.calls ++ [exchange]) (hnew : Permitted job exchange.1 s) :
    LogPermitted job s' := by
  intro before e after hsplit
  rw [hcalls] at hsplit
  rcases List.eq_nil_or_concat after with rfl | ⟨rest, last, rfl⟩
  · obtain ⟨rfl, he⟩ := List.append_inj' hsplit rfl
    obtain rfl := (List.cons.inj he).1
    exact hnew.mono (List.Subset.refl _) hkeys
  · -- the exchange stands before the new one
    rw [List.concat_eq_append, ← List.cons_append, ← List.append_assoc] at hsplit
    obtain ⟨hold, -⟩ := List.append_inj' hsplit rfl
    exact (h before e rest hold).mono (List.Subset.refl _) hkeys

theorem Advances.of_keys {exchange : Exchange}
    (hrow : ∀ row, s.db.provisioning.find? job.id = some row →
      ∃ row', s'.db.provisioning.find? job.id = some row' ∧ row'.terms = row.terms ∧
        (row'.state ∈ verifiedStates →
          row.state ∈ verifiedStates ∨ Verified job AccountVerified s))
    (hpairs : keyPairs job.id s'.db = keyPairs job.id s.db)
    (husable : (∀ k ∈ s.db.custodyKey, k.provisioningId = job.id → activatable job.id k) →
      ∀ k ∈ s'.db.custodyKey, k.provisioningId = job.id → activatable job.id k)
    (hcalls : s'.calls = s.calls ++ [exchange])
    (hpermitted : CallsInv custody job s → Permitted job exchange.1 s) :
    Advances custody job s s' := by
  intro hinv
  have hprefix : s.calls <+: s'.calls := hcalls ▸ List.prefix_append _ _
  refine ⟨⟨?_, ?_, husable hinv.usable, ?_⟩, hprefix, fun _ => hpairs⟩
  · obtain ⟨row, hfind, hterms, hstate⟩ := hinv.row
    obtain ⟨row', hfind', hterms', hstate'⟩ := hrow row hfind
    refine ⟨row', hfind', hterms'.trans hterms, fun hin => ?_⟩
    have hverified : Verified job AccountVerified s := by
      rcases hstate' hin with hold | h
      · exact hstate hold
      · exact h
    exact hverified.mono hprefix.subset fun _ => hpairs
  · have hkept := hinv.keys
    unfold KeysKept at hkept ⊢
    rw [hpairs]
    exact hkept
  · exact hinv.log.append (fun _ => hpairs) hcalls (hpermitted hinv)

theorem Advances.of_read {exchange : Exchange} (hdb : s'.db = s.db)
    (hcalls : s'.calls = s.calls ++ [exchange])
    (hpermitted : CallsInv custody job s → Permitted job exchange.1 s) :
    Advances custody job s s' := by
  refine .of_keys (fun row hfind => ⟨row, ?_, rfl, .inl⟩) ?_ ?_ hcalls hpermitted
  · rw [hdb]
    exact hfind
  · rw [hdb]
  · rw [hdb]
    exact fun h => h

theorem transition_row {id : Uuid} {states : List ProvisioningState}
    {set : Table.Assignment ProvisioningRow.id} {db db' : Db} {row : ProvisioningRow}
    (hok : transition id states set db = .ok db') (hfind : db.provisioning.find? id = some row)
    (hset : ∀ row, (set row).terms = row.terms) :
    ∃ row', db'.provisioning.find? id = some row' ∧ row'.terms = row.terms ∧
      (row' = row ∨ row'.state = (set row).state) := by
  obtain ⟨-, rfl⟩ := transition_eq_ok.mp hok
  refine ⟨Table.updated (fun row => row.id = id ∧ row.state ∈ states) set row, ?_, ?_⟩
  · show (db.provisioning.modify _ set).find? id = _
    rw [Table.find?_modify, hfind]
    rfl
  · by_cases hp : row.id = id ∧ row.state ∈ states
    · rw [Table.updated_of (p := fun row : ProvisioningRow => row.id = id ∧ row.state ∈ states) hp]
      exact ⟨hset row, .inr rfl⟩
    · rw [Table.updated_of_not
        (p := fun row : ProvisioningRow => row.id = id ∧ row.state ∈ states) hp]
      exact ⟨rfl, .inl rfl⟩

theorem Advances.of_transition {states : List ProvisioningState}
    {set : Table.Assignment ProvisioningRow.id} {exchange : Exchange}
    (hok : transition job.id states set s.db = .ok s'.db)
    (hset : ∀ row, (set row).terms = row.terms ∧
      ((set row).state ∈ verifiedStates → Verified job AccountVerified s))
    (hcalls : s'.calls = s.calls ++ [exchange])
    (hpermitted : CallsInv custody job s → Permitted job exchange.1 s) :
    Advances custody job s s' := by
  obtain ⟨-, hdb⟩ := transition_eq_ok.mp hok
  refine .of_keys (fun row hfind => ?_) ?_ ?_ hcalls hpermitted
  · obtain ⟨row', hfind', hterms, hcase⟩ := transition_row hok hfind fun row => (hset row).1
    refine ⟨row', hfind', hterms, fun hin => ?_⟩
    rcases hcase with rfl | hstate
    · exact .inl hin
    · rw [hstate] at hin
      exact .inr ((hset row).2 hin)
  · rw [← hdb]
    rfl
  · rw [← hdb]
    exact fun h => h

theorem Apart.advances (h : Apart job.id s s') : Advances custody job s s' := by
  intro hinv
  have hpairs : keyPairs job.id s'.db = keyPairs job.id s.db := by
    unfold keyPairs
    rw [h.keys]
  refine ⟨⟨?_, ?_, fun k hk hprov => ?_, ?_⟩, ?_, fun _ => hpairs⟩
  · obtain ⟨row, hfind, hterms, hstate⟩ := hinv.row
    refine ⟨row, h.provisioning.trans hfind, hterms, fun hin => ?_⟩
    exact (hstate hin).mono (h.calls ▸ List.Subset.refl _) fun _ => hpairs
  · have hkept := hinv.keys
    unfold KeysKept at hkept ⊢
    rw [hpairs]
    exact hkept
  · have hin : k ∈ s'.db.custodyKey.rows.filter fun k => k.provisioningId = job.id :=
      List.mem_filter.mpr ⟨hk, decide_eq_true hprov⟩
    rw [h.keys] at hin
    exact hinv.usable k (List.mem_filter.mp hin).1 hprov
  · intro before e after hsplit
    rw [h.calls] at hsplit
    exact (hinv.log before e after hsplit).mono (List.Subset.refl _) fun _ => hpairs
  · have hall : s.calls <+: s.calls := List.prefix_refl _
    exact h.calls.symm ▸ hall

end Advances

/-! ### Keys -/

section Keys

variable {custody : String → List CustodyKeyReference} {job : ProvisioningRow} {id : Uuid}
variable {db db' : Db} {s s' : Observed}

/-- The role and the public key of a reference. -/
def CustodyKeyReference.pair (key : CustodyKeyReference) : HiveAuthorityRole × String :=
  (key.authorityRole, key.hivePublicKey)

/-- The role and the public key of a row. -/
def CustodyKeyRow.pair (key : CustodyKeyRow) : HiveAuthorityRole × String :=
  (key.authorityRole, key.hivePublicKey)

theorem keyMapFrom_spec :
    ∀ {keys : List CustodyKeyReference} {entries result : KeyMap},
      keyMapFrom entries keys = .ok result →
        result = entries ++ keys.map (·.pair) ∧
          ((entries.map (·.1)).Nodup → (result.map (·.1)).Nodup)
  | [], entries, result, hok => by
    obtain rfl : entries = result := by simpa [keyMapFrom] using hok
    exact ⟨by rw [List.map_nil, List.append_nil], fun h => h⟩
  | key :: keys, entries, result, hok => by
    simp only [keyMapFrom, bind_eq_ok, exists_unit, require_eq_ok] at hok
    obtain ⟨⟨hnew, -, -⟩, hok⟩ := hok
    obtain ⟨hresult, hnodup⟩ := keyMapFrom_spec hok
    refine ⟨?_, fun h => hnodup ?_⟩
    · rw [hresult, List.append_assoc]
      rfl
    · rw [List.map_append]
      refine List.nodup_append.mpr ⟨h, List.nodup_singleton _, fun a ha b hb => ?_⟩
      obtain rfl := List.mem_singleton.mp hb
      rintro rfl
      exact hnew ha

theorem keyMap_spec {keys : List CustodyKeyReference} {entries : KeyMap}
    (hok : keyMap keys = .ok entries) :
    entries = keys.map (·.pair) ∧ (entries.map (·.1)).Perm authorityRoles := by
  simp only [keyMap, bind_eq_ok, exists_unit, require_eq_ok, pure_eq_ok] at hok
  obtain ⟨result, hresult, hroles, rfl⟩ := hok
  obtain ⟨hmap, hnodup⟩ := keyMapFrom_spec hresult
  refine ⟨by rw [hmap, List.nil_append], ?_⟩
  refine (List.perm_ext_iff_of_nodup (hnodup List.nodup_nil) (by decide)).mpr fun role => ?_
  have hin : role ∈ authorityRoles := by cases role <;> decide
  exact ⟨fun _ => hin, fun h => hroles role h⟩

theorem insertKeys_sublist {ids : ℕ → Uuid} {time : Timestamp} :
    ∀ {keys : List CustodyKeyReference} {drawn : ℕ} {rows added : List CustodyKeyRow},
      insertKeys ids id time drawn keys rows = .ok added →
        (added.map (·.pair)).Sublist (keys.map (·.pair))
  | [], _, rows, added, hok => by
    obtain rfl : [] = added := by simpa [insertKeys] using hok
    exact List.Sublist.refl _
  | key :: keys, drawn, rows, added, hok => by
    simp only [insertKeys, bind_eq_ok, exists_unit] at hok
    obtain ⟨-, hok⟩ := hok
    split at hok
    · exact (insertKeys_sublist hok).cons _
    · simp only [bind_eq_ok, exists_unit, require_eq_ok, pure_eq_ok] at hok
      obtain ⟨-, -, rest, hrest, rfl⟩ := hok
      exact (insertKeys_sublist hrest).cons_cons _

/-- When the job has no keys yet, `saveKeys` is about to add exactly the keys it was given. -/
theorem saveKeys_pairs {ids : ℕ → Uuid} {keys : List CustodyKeyReference} {time : Timestamp}
    {added : List CustodyKeyRow} {entries : KeyMap} (hmap : keyMap keys = .ok entries)
    (hok : saveKeys ids id keys time db = .ok added) :
    (∀ key ∈ added, NewKey id key) ∧ (keyPairs id db = [] → added.map (·.pair) = entries) := by
  simp only [saveKeys, bind_eq_ok, exists_unit, require_eq_ok, pure_eq_ok] at hok
  obtain ⟨rows, hrows, hcount, rfl⟩ := hok
  obtain ⟨hnew, -⟩ := insertKeys_spec hrows
  refine ⟨hnew, fun hnone => ?_⟩
  obtain ⟨hentries, hroles⟩ := keyMap_spec hmap
  have hold : db.custodyKey.rows.filter (fun k => k.provisioningId = id && k.state = .generated) =
      [] := by
    have hempty := List.map_eq_nil_iff.mp hnone
    refine List.filter_eq_nil_iff.mpr fun k hk hp => ?_
    rw [Bool.and_eq_true] at hp
    exact List.filter_eq_nil_iff.mp hempty k hk hp.1
  have hall : rows.filter (fun k => k.provisioningId = id && k.state = .generated) = rows := by
    refine List.filter_eq_self.mpr fun k hk => ?_
    obtain ⟨hprov, hstate, -⟩ := hnew k hk
    rw [Bool.and_eq_true]
    exact ⟨decide_eq_true hprov, decide_eq_true hstate⟩
  rw [List.filter_append, hold, hall, List.nil_append] at hcount
  have hfour : entries.length = 4 := by
    have hlength := hroles.length_eq
    rw [List.length_map] at hlength
    exact hlength
  have hsublist : (rows.map (·.pair)).Sublist entries := hentries ▸ insertKeys_sublist hrows
  exact hsublist.eq_of_length (by rw [List.length_map, hcount, hfour])

/-- What a committed `saveKeys` leaves of the job's keys. -/
theorem keyPairs_addKeys {added : List CustodyKeyRow} {table : Table CustodyKeyRow (·.id)}
    (hnew : ∀ key ∈ added, NewKey id key) (hok : addKeys added db.custodyKey = .ok table) :
    keyPairs id { db with custodyKey := table } = keyPairs id db ++ added.map (·.pair) ∧
      ∀ key ∈ added, keyRoleFree db.custodyKey.rows key := by
  obtain ⟨hrows, hfree, -⟩ := @addKeys_spec id added db.custodyKey table hok
  have hall : added.filter (fun k => k.provisioningId = id) = added :=
    List.filter_eq_self.mpr fun k hk => decide_eq_true (hnew k hk).1
  refine ⟨?_, hfree⟩
  show (table.rows.filter fun k => k.provisioningId = id).map _ = _
  rw [hrows, List.filter_append, hall, List.map_append]
  rfl

/-- **The commit of `saveKeys`** adds the keys to a job that has none, and nothing otherwise. -/
theorem advances_saveKeysCommit {added : List CustodyKeyRow} {time : Timestamp} {entries : KeyMap}
    {exchange : Exchange} (hmap : keyMap (custody (job.idempotencyKey ++ ":keys")) = .ok entries)
    (hnew : ∀ key ∈ added, NewKey job.id key)
    (hadded : keyPairs job.id s.db = [] → added.map (·.pair) = entries)
    (hok : saveKeysCommit job.id added time s.db = .ok s'.db)
    (hcalls : s'.calls = s.calls ++ [exchange]) (hpermitted : Permitted job exchange.1 s) :
    Advances custody job s s' ∧ (CallsInv custody job s → StoredKeys job.id entries s'.db) := by
  simp only [saveKeysCommit, bind_eq_ok] at hok
  obtain ⟨table, htable, hok⟩ := hok
  obtain ⟨hpairs, hfree⟩ := keyPairs_addKeys hnew htable
  obtain ⟨hrows, -, -⟩ := @addKeys_spec job.id added s.db.custodyKey table htable
  obtain ⟨-, hdb⟩ := transition_eq_ok.mp hok
  have hpairs' : keyPairs job.id s'.db = keyPairs job.id s.db ++ added.map (·.pair) := by
    rw [← hpairs, ← hdb]
    rfl
  have hroles := (keyMap_spec hmap).2
  have hcases : CallsInv custody job s → keyPairs job.id s'.db = entries ∧
      (keyPairs job.id s.db ≠ [] → keyPairs job.id s'.db = keyPairs job.id s.db) := by
    intro hinv
    rcases hinv.keys with hnone | hkept
    · exact ⟨by rw [hpairs', hnone, hadded hnone, List.nil_append], fun hne => absurd hnone hne⟩
    · -- every role has a current key, so nothing was added
      have heq : keyPairs job.id s.db = entries := Except.ok.inj (hkept.symm.trans hmap)
      have hnone : added = [] := by
        refine List.eq_nil_iff_forall_not_mem.mpr fun key hkey => ?_
        have hin : key.authorityRole ∈ (keyPairs job.id s.db).map (·.1) := by
          rw [heq]
          refine hroles.mem_iff.mpr ?_
          cases key.authorityRole <;> decide
        obtain ⟨pair, hpair, hrole⟩ := List.mem_map.mp hin
        obtain ⟨k, hk, rfl⟩ := List.mem_map.mp hpair
        obtain ⟨hk, hprov⟩ := List.mem_filter.mp hk
        have hprov : k.provisioningId = job.id := of_decide_eq_true hprov
        have hcurrent : k.state.current = true := by
          rcases (hinv.usable k hk hprov).2 with h | h
          · rw [h]
            rfl
          · rw [h]
            rfl
        exact hfree key hkey k hk ⟨hcurrent, hprov.trans (hnew key hkey).1.symm, hrole⟩
      have hsame : keyPairs job.id s'.db = keyPairs job.id s.db := by
        rw [hpairs', hnone, List.map_nil, List.append_nil]
      exact ⟨hsame.trans heq, fun _ => hsame⟩
  refine ⟨fun hinv => ?_, fun hinv => ?_⟩
  swap
  · obtain ⟨heq, -⟩ := hcases hinv
    exact ⟨heq ▸ List.Perm.refl _, hroles⟩
  obtain ⟨heq, hkeys⟩ := hcases hinv
  have hprefix : s.calls <+: s'.calls := hcalls ▸ List.prefix_append _ _
  refine ⟨⟨?_, .inr (by rw [heq, hmap]), fun k hk hprov => ?_, ?_⟩, hprefix, hkeys⟩
  · obtain ⟨row, hfind, hterms, hstate⟩ := hinv.row
    obtain ⟨row', hfind', hterms', hcase⟩ := transition_row hok hfind fun _ => rfl
    refine ⟨row', hfind', hterms'.trans hterms, fun hin => ?_⟩
    rcases hcase with rfl | hready
    · exact (hstate hin).mono hprefix.subset hkeys
    · have hready : row'.state = .keysReady := hready
      rw [hready] at hin
      exact absurd hin (by decide)
  · have hk : k ∈ table := by
      rw [← hdb] at hk
      exact hk
    rw [Table.mem_def, hrows] at hk
    rcases List.mem_append.mp hk with hk | hk
    · exact hinv.usable k hk hprov
    · exact ⟨hprov, .inl (hnew k hk).2.1⟩
  · exact hinv.log.append hkeys hcalls hpermitted

/-- `markReady` keeps the keys of the job. -/
theorem advances_markReady {playerId : Uuid} {time : Timestamp} {exchange : Exchange}
    (hverified : Verified job AccountVerified s)
    (hok : markReady playerId job.id time s.db = .ok s'.db)
    (hcalls : s'.calls = s.calls ++ [exchange]) (hpermitted : Permitted job exchange.1 s) :
    Advances custody job s s' := by
  unfold markReady at hok
  split at hok
  · cases hok
  rename_i row hfind
  obtain ⟨-, hid⟩ := Table.find?_eq_some.mp hfind
  by_cases hready : row.state = .ready
  · rw [if_pos hready] at hok
    exact .of_read (Except.ok.inj hok).symm hcalls fun _ => hpermitted
  rw [if_neg hready] at hok
  obtain ⟨player, set, activate, link, hset, hactivate, -, hjobs, hcustody, -⟩ := finalize_eq_ok hok
  refine .of_keys (fun row' hfind' => ?_) ?_ ?_ hcalls fun _ => hpermitted
  · refine ⟨Table.updated (fun r => r.id = row.id ∧ r.state ∈ [.rcDelegated, .retryableFailed]) set
      row', ?_, ?_, fun _ => .inr hverified⟩
    · rw [hjobs, Table.find?_modify, hfind']
      rfl
    · unfold Table.updated
      split
      · exact (hset row').2.2
      · rfl
  · have hpair : ∀ k, (Table.updated (activatable row.id) activate k).pair = k.pair := fun k =>
      Table.updated_eq (g := fun k : CustodyKeyRow => k.pair)
        (fun k => Prod.ext (hactivate k).2.2.2.1 (hactivate k).2.2.2.2) k
    show (s'.db.custodyKey.rows.filter fun k => k.provisioningId = job.id).map (·.pair) = _
    rw [hcustody, Table.filter_modify (fun k => by rw [(hactivate k).2.2.1]), List.map_map]
    exact List.map_congr_left fun k _ => hpair k
  · intro husable k hk hprov
    rw [hcustody] at hk
    rcases Table.mem_modify_cases hk with ⟨old, -, hact, rfl⟩ | ⟨hk, -⟩
    · exact ⟨hprov, .inr (hactivate old).2.1⟩
    · exact husable k hk hprov

end Keys

/-! ### The program -/

/-- The writes that take a job to a verified state. -/
def Request.Confirms : Request → Prop
  | .markAccountCreated _ _ _ => True
  | .markRcDelegationPending _ _ => True
  | .markRcDelegated _ _ _ => True
  | _ => False

/-- The job that a call has read. -/
structure SameJob (j : ProvisioningJob) (job : ProvisioningRow) : Prop where
  id : j.id = job.id
  idempotencyKey : j.idempotencyKey = job.idempotencyKey
  requestedHiveUsername : j.requestedHiveUsername = job.requestedHiveUsername
  sponsorHiveAccount : j.sponsorHiveAccount = job.sponsorHiveAccount

section Program

variable {custody : String → List CustodyKeyReference} {job : ProvisioningRow} {α : Type}
variable {Q : Except Failure α → Observed → Prop} {s s' : Observed} {j : ProvisioningJob}
variable {keys : KeyMap} {now : Timestamp}

theorem advances_read {q : Request} {r : Except Failure q.Response} (hq : q.IsRead)
    (hpermitted : CallsInv custody job s → Permitted job q s)
    (h : answerObserved custody q s r s') : Advances custody job s s' :=
  .of_read (answer_read hq h.1) h.2.2 hpermitted

theorem advances_outcome {q : Request} {result : Except Failure Db} {u : Except Failure Unit}
    {r : Except Failure q.Response} (houtcome : CallOutcome result s.db u s'.db)
    (hcalls : s'.calls = s.calls ++ [⟨q, r⟩]) (hpermitted : Permitted job q s)
    (hadvances : result = .ok s'.db → Advances custody job s s') : Advances custody job s s' := by
  rcases CallOutcome.db_cases houtcome with hok | ⟨hdb, -⟩
  · exact hadvances hok
  · exact .of_read hdb hcalls fun _ => hpermitted

theorem advances_transition {n : ℕ} {q : Request} {r : Except Failure q.Response}
    (hq : q.IsTransition job.id n) (hverified : q.Confirms → Verified job AccountVerified s)
    (h : answerObserved custody q s r s') : Advances custody job s s' := by
  obtain ⟨hanswer, -, hcalls⟩ := h
  cases hq with
  | accountCreationPending reference time =>
    refine advances_outcome hanswer hcalls trivial fun hok => ?_
    simp only [markAccountCreationPending, bind_eq_ok, exists_unit] at hok
    refine .of_transition hok.2 (fun row => ⟨rfl, fun hin => ?_⟩) hcalls fun _ => trivial
    have hin : ProvisioningState.accountCreationPending ∈ verifiedStates := hin
    exact absurd hin (by decide)
  | accountCreated transactionId time =>
    refine advances_outcome hanswer hcalls trivial fun hok => ?_
    simp only [markAccountCreated, bind_eq_ok, exists_unit] at hok
    exact .of_transition hok.2 (fun row => ⟨rfl, fun _ => hverified trivial⟩) hcalls
      fun _ => trivial
  | rcDelegationPending time =>
    refine advances_outcome hanswer hcalls trivial fun hok => ?_
    exact .of_transition hok (fun row => ⟨rfl, fun _ => hverified trivial⟩) hcalls
      fun _ => trivial
  | rcDelegated reference time =>
    refine advances_outcome hanswer hcalls trivial fun hok => ?_
    simp only [markRcDelegated, bind_eq_ok, exists_unit] at hok
    exact .of_transition hok.2 (fun row => ⟨rfl, fun _ => hverified trivial⟩) hcalls
      fun _ => trivial

/-- Safety of a call on the job: every exchange advances the job. -/
abbrev CallSafe (custody : String → List CustodyKeyReference) (job : ProvisioningRow)
    (p : Provisioner α) (Q : Except Failure α → Observed → Prop) (s : Observed) : Prop :=
  p.Safe (Advances custody job) (answerObserved custody) (fun _ => Advances custody job) Q s

/-- A fact of the calls that no move takes away. -/
def Stable (custody : String → List CustodyKeyReference) (job : ProvisioningRow)
    (F : Observed → Prop) : Prop :=
  ∀ s s', CallsInv custody job s → Advances custody job s s' → F s → F s'

theorem stable_true : Stable custody job fun _ => True := fun _ _ _ _ h => h

theorem stable_verified {accepted : Verification → Prop} :
    Stable custody job (Verified job accepted) := by
  intro s s' hinv hadvances h
  obtain ⟨-, hcalls, hkeys⟩ := hadvances hinv
  exact h.mono hcalls.subset hkeys

theorem stable_storedKeys : Stable custody job fun s => StoredKeys job.id keys s.db := by
  intro s s' hinv hadvances h
  obtain ⟨-, -, hkeys⟩ := hadvances hinv
  exact h.of_pairs (hkeys h.ne_nil)

theorem callSafe_then {q : Request} {f : q.Response → Provisioner α} {F : Observed → Prop}
    (hinv : CallsInv custody job s) (hF : F s) (hstable : Stable custody job F)
    (hadvances : ∀ s₁ r s₂, F s₁ → answerObserved custody q s₁ r s₂ → Advances custody job s₁ s₂)
    (hok : ∀ a s₁ s₂, CallsInv custody job s₁ → F s₁ → answerObserved custody q s₁ (.ok a) s₂ →
      CallsInv custody job s₂ → F s₂ → CallSafe custody job (f a) Q s₂)
    (herr : ∀ e s₂, CallsInv custody job s₂ → Q (.error e) s₂) :
    CallSafe custody job ((Prog.request q).bind f) Q s := by
  refine Prog.safe_request_bind fun s₁ hs₁ r s₂ hanswer => ?_
  have hinv₁ := (hs₁ hinv).1
  have hF₁ := hstable s s₁ hinv hs₁ hF
  have hadv := hadvances s₁ r s₂ hF₁ hanswer
  have hinv₂ := (hadv hinv₁).1
  refine ⟨hadv, ?_⟩
  cases r with
  | ok a => exact hok a s₁ s₂ hinv₁ hF₁ hanswer hinv₂ (hstable s₁ s₂ hinv₁ hadv hF₁)
  | error e => exact herr e s₂ hinv₂

theorem callSafe_last {q : Request} {F : Observed → Prop}
    {Q : Except Failure q.Response → Observed → Prop} (hinv : CallsInv custody job s) (hF : F s)
    (hstable : Stable custody job F)
    (hadvances : ∀ s₁ r s₂, F s₁ → answerObserved custody q s₁ r s₂ → Advances custody job s₁ s₂)
    (hend : ∀ r s₂, CallsInv custody job s₂ → F s₂ → Q r s₂) :
    CallSafe custody job (Prog.request q) Q s := by
  refine Prog.safe_request fun s₁ hs₁ r s₂ hanswer => ?_
  have hinv₁ := (hs₁ hinv).1
  have hF₁ := hstable s s₁ hinv hs₁ hF
  have hadv := hadvances s₁ r s₂ hF₁ hanswer
  exact ⟨hadv, hend r s₂ (hadv hinv₁).1 (hstable s₁ s₂ hinv₁ hadv hF₁)⟩

theorem callSafe_frame {p : Provisioner α} {F : Observed → Prop} (hinv : CallsInv custody job s)
    (hF : F s) (hstable : Stable custody job F) (h : CallSafe custody job p Q s) :
    CallSafe custody job p (fun r s => Q r s ∧ F s) s := by
  have hkeep : ∀ a b, Advances custody job a b → CallsInv custody job a ∧ F a →
      CallsInv custody job b ∧ F b := fun a b hadv hab =>
    ⟨(hadv hab.1).1, hstable a b hab.1 hadv hab.2⟩
  refine Prog.safe_mono (Prog.safe_frame (I := fun s => CallsInv custody job s ∧ F s) hkeep
    (fun _ => hkeep) ⟨hinv, hF⟩ h) ?_
  exact fun r s hs => ⟨hs.1, hs.2.2⟩

/-- The keys that `getKeys` returns are the stored ones. -/
theorem storedKeys_of_getKeys {existing : List CustodyKeyReference} (hinv : CallsInv custody job s)
    (hperm : existing.Perm (getKeys job.id s.db)) (hmap : keyMap existing = .ok keys) :
    StoredKeys job.id keys s.db := by
  obtain ⟨hentries, hroles⟩ := keyMap_spec hmap
  have hfilter : (s.db.custodyKey.rows.filter fun key => key.provisioningId = job.id &&
      (key.state = .generated || key.state = .active)) =
      s.db.custodyKey.rows.filter fun key => key.provisioningId = job.id := by
    refine List.filter_congr fun k hk => ?_
    by_cases hprov : k.provisioningId = job.id
    · have husable := (hinv.usable k hk hprov).2
      rw [decide_eq_true hprov, Bool.true_and, Bool.or_eq_true]
      rcases husable with h | h
      · exact .inl (decide_eq_true h)
      · exact .inr (decide_eq_true h)
    · rw [decide_eq_false hprov, Bool.false_and]
  have hpairs : (getKeys job.id s.db).map (·.pair) = keyPairs job.id s.db := by
    unfold getKeys keyPairs
    rw [hfilter, List.map_map]
    rfl
  refine ⟨?_, hroles⟩
  rw [hentries, ← hpairs]
  exact hperm.map _

/-- **`ensureKeys`** returns references to the stored keys. -/
theorem ensureKeys_calls (hjob : SameJob j job) (hinv : CallsInv custody job s) :
    CallSafe custody job (ensureKeys j now)
      (fun r s => CallsInv custody job s ∧ ∀ references, r = .ok references →
        ∃ entries, keyMap references = .ok entries ∧ StoredKeys job.id entries s.db) s := by
  have hfail : ∀ (e : Failure) (s : Observed), CallsInv custody job s →
      CallsInv custody job s ∧ ∀ references,
        (Except.error e : Except Failure (List CustodyKeyReference)) = .ok references →
          ∃ entries, keyMap references = .ok entries ∧ StoredKeys job.id entries s.db :=
    fun e s h => ⟨h, fun _ hr => by cases hr⟩
  unfold ensureKeys
  rw [hjob.id, hjob.idempotencyKey]
  refine callSafe_then (F := fun _ => True) hinv trivial stable_true ?_ ?_ hfail
  · exact fun s₁ r s₂ _ h => advances_read (.getKeys job.id) (fun _ => trivial) h
  intro existing s₁ s₂ _ _ hanswer hinv₂ _
  obtain ⟨⟨hdb, ⟨_, heq, hperm⟩ | hlost⟩, -⟩ := hanswer
  swap
  · cases hlost
  obtain rfl := Except.ok.inj heq
  by_cases hfour : existing.length = authorityRoles.length
  · rw [if_pos hfour]
    cases hmap : keyMap existing with
    | error e => exact hfail e s₂ hinv₂
    | ok entries =>
      refine ⟨hinv₂, fun references hr => ?_⟩
      obtain rfl := Except.ok.inj hr
      exact ⟨entries, hmap, storedKeys_of_getKeys hinv₂ (hdb.symm ▸ hperm) hmap⟩
  rw [if_neg hfour]
  by_cases hsome : existing.length ≠ 0
  · rw [if_pos hsome]
    exact hfail _ s₂ hinv₂
  rw [if_neg hsome]
  refine callSafe_then (F := fun _ => True) hinv₂ trivial stable_true ?_ ?_ hfail
  · exact fun s₁ r s₂ _ h => advances_read (.generateAuthorityKeys _ _ _) (fun _ => trivial) h
  intro generated s₃ s₄ _ _ hanswer hinv₄ _
  obtain rfl : generated = custody (job.idempotencyKey ++ ":keys") := hanswer.2.1 generated rfl
  cases hmap : keyMap (custody (job.idempotencyKey ++ ":keys")) with
  | error e => exact hfail e s₄ hinv₄
  | ok entries =>
    show CallSafe custody job ((Repository.saveKeys job.id _ now).bind fun _ => .ret _) _ s₄
    refine Prog.safe_bind ?_
    refine callSafe_then (F := fun _ => True) hinv₄ trivial stable_true ?_ ?_ hfail
    · exact fun s₁ r s₂ _ h => advances_read (.saveKeys _ _ _) (fun _ => trivial) h
    intro added s₅ s₆ _ _ hanswer hinv₆ _
    obtain ⟨⟨hdb, ⟨ids, hok⟩ | hlost⟩, -⟩ := hanswer
    swap
    · cases hlost
    obtain ⟨hnew, hadded⟩ := saveKeys_pairs hmap hok.symm
    -- other calls may commit their keys before this one does
    refine Prog.safe_request fun s₇ hs₇ r s₈ hcommit => ?_
    obtain ⟨hinv₇, -, hkeys⟩ := hs₇ hinv₆
    have hadded₇ : keyPairs job.id s₇.db = [] → added.map (·.pair) = entries := by
      intro hnil
      refine hadded ?_
      by_contra hne
      rw [← hdb] at hne
      exact hne ((hkeys hne).symm.trans hnil)
    obtain ⟨houtcome, -, hcalls⟩ := hcommit
    rcases CallOutcome.db_cases houtcome with hok | ⟨hdb, e, rfl⟩
    · obtain ⟨hadv, hstored⟩ := advances_saveKeysCommit hmap hnew hadded₇ hok hcalls trivial
      have hinv₈ := (hadv hinv₇).1
      refine ⟨hadv, ?_⟩
      cases r with
      | error e => exact hfail e s₈ hinv₈
      | ok u =>
        refine ⟨hinv₈, fun references hr => ?_⟩
        obtain rfl := Except.ok.inj hr
        exact ⟨entries, hmap, hstored hinv₇⟩
    · have hadv : Advances custody job s₇ s₈ := .of_read hdb hcalls fun _ => trivial
      exact ⟨hadv, hfail e s₈ (hadv hinv₇).1⟩

theorem verified_of_answer {accepted : Verification → Prop} {v : Verification}
    (hjob : SameJob j job) (hstored : StoredKeys job.id keys s'.db)
    (hanswer : answerObserved custody (.verifyReady keys j.sponsorHiveAccount j.requestedHiveUsername)
      s (.ok v) s') (haccepted : accepted v) : Verified job accepted s' := by
  refine ⟨keys, v, hstored, haccepted, ?_⟩
  rw [hanswer.2.2, hjob.requestedHiveUsername, hjob.sponsorHiveAccount]
  exact List.mem_append_right _ (List.mem_singleton_self _)

/-- **`createAccount`** asks for the stored keys, and ends well only after a verification. -/
theorem createAccount_calls (hjob : SameJob j job) (hinv : CallsInv custody job s)
    (hstored : StoredKeys job.id keys s.db) :
    CallSafe custody job (createAccount j keys now)
      (fun r s => CallsInv custody job s ∧ (r = .ok () → Verified job AccountVerified s)) s := by
  have hfail : ∀ (e : Failure) (s : Observed), CallsInv custody job s → CallsInv custody job s ∧
      ((Except.error e : Except Failure Unit) = .ok () → Verified job AccountVerified s) :=
    fun e s h => ⟨h, fun hr => by cases hr⟩
  refine callSafe_then hinv hstored stable_storedKeys ?_ ?_ hfail
  · intro s₁ r s₂ hstored h
    refine advances_read (.createClaimedAccount _ _ _ _ _) (fun _ => ⟨?_, ?_, hstored⟩) h
    · rw [hjob.idempotencyKey]
    · exact hjob.requestedHiveUsername
  intro account _ s₁ _ _ _ hinv₁ hstored₁
  refine callSafe_then hinv₁ hstored₁ stable_storedKeys ?_ ?_ hfail
  · intro s₁ r s₂ _ h
    refine advances_transition (n := 2) ?_ (by intro hnone; exact False.elim hnone) h
    rw [hjob.id]
    exact .accountCreationPending _ _
  intro _ _ s₂ _ _ _ hinv₂ hstored₂
  refine callSafe_then hinv₂ hstored₂ stable_storedKeys ?_ ?_ hfail
  · exact fun s₁ r s₂ _ h => advances_read (.verifyReady _ _ _) (fun _ => trivial) h
  intro v _ s₃ _ _ hanswer hinv₃ hstored₃
  by_cases haccepted : v.accountIrreversible ∧ v.authoritiesMatch
  · rw [if_neg (not_not.mpr haccepted)]
    have hverified : Verified job AccountVerified s₃ :=
      verified_of_answer hjob hstored₃ hanswer haccepted
    refine callSafe_last hinv₃ hverified stable_verified ?_ fun r s₄ hinv₄ h => ⟨hinv₄, fun _ => h⟩
    intro s₁ r s₂ hverified h
    refine advances_transition (n := 3) ?_ (fun _ => hverified) h
    rw [hjob.id]
    exact .accountCreated _ _
  · rw [if_pos haccepted]
    exact hfail _ s₃ hinv₃

theorem delegateCredits_calls (hjob : SameJob j job) (hinv : CallsInv custody job s)
    (hverified : Verified job AccountVerified s) :
    CallSafe custody job (delegateCredits j now) (fun _ s => CallsInv custody job s) s := by
  refine callSafe_then hinv hverified stable_verified ?_ ?_ fun _ s h => h
  · intro s₁ r s₂ hverified h
    refine advances_transition (n := 4) ?_ (fun _ => hverified) h
    rw [hjob.id]
    exact .rcDelegationPending _
  intro _ _ s₁ _ _ _ hinv₁ hverified₁
  refine callSafe_then hinv₁ hverified₁ stable_verified ?_ ?_ fun _ s h => h
  · intro s₁ r s₂ hverified h
    refine advances_read (.delegateInitialResourceCredits _ _ _ _) (fun _ => ⟨?_, ?_, hverified⟩) h
    · rw [hjob.idempotencyKey]
    · exact hjob.requestedHiveUsername
  intro reference _ s₂ _ _ _ hinv₂ hverified₂
  refine callSafe_last hinv₂ hverified₂ stable_verified ?_ fun r s₃ hinv₃ _ => hinv₃
  intro s₁ r s₂ hverified h
  refine advances_transition (n := 5) ?_ (fun _ => hverified) h
  rw [hjob.id]
  exact .rcDelegated _ _

/-- The states in which `attempt` runs, and in which it does not create the account. -/
theorem mem_verifiedStates {state : ProvisioningState}
    (hopen : ¬ (state = .ready ∨ state = .terminalFailed)) (hstate : state ∉ accountStates) :
    state ∈ verifiedStates := by
  cases state with
  | ready => exact absurd (.inl rfl) hopen
  | terminalFailed => exact absurd (.inr rfl) hopen
  | accountCreated => decide
  | rcDelegationPending => decide
  | rcDelegated => decide
  | usernameConfirmed => exact absurd (by decide) hstate
  | keysReady => exact absurd (by decide) hstate
  | accountCreationPending => exact absurd (by decide) hstate
  | retryableFailed => exact absurd (by decide) hstate

theorem attempt_calls (hjob : SameJob j job) (hinv : CallsInv custody job s)
    (hopen : ¬ (j.state = .ready ∨ j.state = .terminalFailed))
    (hread : j.state ∈ verifiedStates → Verified job AccountVerified s) :
    CallSafe custody job (attempt j now) (fun _ s => CallsInv custody job s) s := by
  have hstable : Stable custody job
      fun s => j.state ∈ verifiedStates → Verified job AccountVerified s :=
    fun a b ha hadv h hin => stable_verified a b ha hadv (h hin)
  refine Prog.safe_bind (Prog.safe_mono
    (callSafe_frame hinv hread hstable (ensureKeys_calls hjob hinv)) ?_)
  rintro (e | references) s₁ ⟨⟨hinv₁, hreferences⟩, hread₁⟩
  · exact hinv₁
  obtain ⟨entries, hmap, hstored⟩ := hreferences references rfl
  refine Prog.safe_bind (Prog.safe_lift.mpr ?_)
  rw [hmap]
  -- either this call creates the account, or an earlier one has
  have haccount : CallSafe custody job
      (if j.state ∈ accountStates then createAccount j entries now else pure ())
      (fun r s => CallsInv custody job s ∧ (r = .ok () → Verified job AccountVerified s)) s₁ := by
    by_cases hstate : j.state ∈ accountStates
    · rw [if_pos hstate]
      exact createAccount_calls hjob hinv₁ hstored
    · rw [if_neg hstate]
      exact ⟨hinv₁, fun _ => hread₁ (mem_verifiedStates hopen hstate)⟩
  refine Prog.safe_bind (Prog.safe_mono
    (callSafe_frame hinv₁ hstored stable_storedKeys haccount) ?_)
  rintro (e | ⟨⟩) s₂ ⟨⟨hinv₂, hverified₂⟩, hstored₂⟩
  · exact hinv₂
  have hcredits : CallSafe custody job
      (if j.state ≠ .rcDelegated then delegateCredits j now else pure ())
      (fun _ s => CallsInv custody job s) s₂ := by
    by_cases hstate : j.state ≠ .rcDelegated
    · rw [if_pos hstate]
      exact delegateCredits_calls hjob hinv₂ (hverified₂ rfl)
    · rw [if_neg hstate]
      exact hinv₂
  refine Prog.safe_bind (Prog.safe_mono
    (callSafe_frame hinv₂ hstored₂ stable_storedKeys hcredits) ?_)
  rintro (e | ⟨⟩) s₃ ⟨hinv₃, hstored₃⟩
  · exact hinv₃
  refine callSafe_then hinv₃ hstored₃ stable_storedKeys ?_ ?_ fun _ s h => h
  · exact fun s₁ r s₂ _ h => advances_read (.verifyReady _ _ _) (fun _ => trivial) h
  intro v _ s₄ _ _ hanswer hinv₄ hstored₄
  by_cases haccepted : v.accountIrreversible ∧ v.authoritiesMatch ∧ v.initialResourceCreditsReady
  · rw [if_neg (not_not.mpr haccepted)]
    have hverified : Verified job ReadyVerified s₄ :=
      verified_of_answer hjob hstored₄ hanswer haccepted
    refine callSafe_then hinv₄ hverified stable_verified ?_ (fun _ _ _ _ _ _ h _ => h) fun _ s h => h
    intro s₅ r s₆ hverified h
    obtain ⟨⟨playerId, houtcome⟩, -, hcalls⟩ := h
    rw [hjob.id] at houtcome
    have haccount : Verified job AccountVerified s₅ := by
      obtain ⟨keys, v, hkeys, hv, hmem⟩ := hverified
      exact ⟨keys, v, hkeys, ⟨hv.1, hv.2.1⟩, hmem⟩
    exact advances_outcome houtcome hcalls hverified fun hok =>
      advances_markReady haccount hok hcalls hverified
  · rw [if_pos haccepted]
    exact hinv₄

/-- **One call of `process`** advances the job, whatever the other calls do. -/
theorem process_calls (hinv : CallsInv custody job s) :
    CallSafe custody job (process job.id now) (fun _ s => CallsInv custody job s) s := by
  refine callSafe_then (F := fun _ => True) hinv trivial stable_true ?_ ?_ fun _ s h => h
  · exact fun s₁ r s₂ _ h => advances_read (.getJobForUpdate job.id) (fun _ => trivial) h
  intro found s₁ s₂ _ _ hanswer hinv₂ _
  obtain ⟨⟨hdb, hfound | hlost⟩, -⟩ := hanswer
  swap
  · cases hlost
  obtain rfl : found = getJobForUpdate job.id s₁.db := Except.ok.inj hfound
  obtain ⟨row, hfind, hterms, hstate⟩ := hinv₂.row
  have hread : getJobForUpdate job.id s₁.db = some (mapJob row) := by
    unfold getJobForUpdate
    rw [← hdb, hfind]
    rfl
  rw [hread]
  dsimp only
  obtain ⟨-, hid⟩ := Table.find?_eq_some.mp hfind
  have hjob : SameJob (mapJob row) job :=
    ⟨hid, congrArg JobTerms.idempotencyKey hterms, congrArg JobTerms.requestedHiveUsername hterms,
      congrArg JobTerms.sponsorHiveAccount hterms⟩
  by_cases hopen : (mapJob row).state = .ready ∨ (mapJob row).state = .terminalFailed
  · rw [if_pos hopen]
    exact hinv₂
  · rw [if_neg hopen]
    refine Prog.safe_orElse (Prog.safe_mono (attempt_calls hjob hinv₂ hopen hstate) ?_)
    rintro (e | job') s₃ hinv₃
    · refine callSafe_then (F := fun _ => True) hinv₃ trivial stable_true ?_
        (fun _ _ _ _ _ _ h _ => h) fun _ s h => h
      exact fun s₄ r s₅ _ h =>
        advances_read (.markRetryableFailure _ _ _) (fun _ => trivial) h
    · exact hinv₃

end Program

/-! ### Any number of calls -/

/-- **The calls agree**: each exchange is permitted by those before it, and all
account creations, and all delegations, say the same. -/
structure CallsAgree (job : ProvisioningRow) (s : Observed) : Prop where
  permitted : LogPermitted job s
  accounts : ∀ key keys policy sponsor username r key' keys' policy' sponsor' username' r',
    (⟨.createClaimedAccount key keys policy sponsor username, r⟩ : Exchange) ∈ s.calls →
    (⟨.createClaimedAccount key' keys' policy' sponsor' username', r'⟩ : Exchange) ∈ s.calls →
      key = key' ∧ username = username' ∧ keys.Perm keys'
  delegations : ∀ key policy sponsor username r key' policy' sponsor' username' r',
    (⟨.delegateInitialResourceCredits key policy sponsor username, r⟩ : Exchange) ∈ s.calls →
    (⟨.delegateInitialResourceCredits key' policy' sponsor' username', r'⟩ : Exchange) ∈ s.calls →
      key = key' ∧ username = username'

section Runs

variable {ι : Type} [DecidableEq ι] {custody : String → List CustodyKeyReference} {id : Uuid}
variable {now : ι → Timestamp} {db : Db} {job : ProvisioningRow}

theorem LogPermitted.of_mem {s : Observed} {exchange : Exchange} (h : LogPermitted job s)
    (hmem : exchange ∈ s.calls) : ∃ before, Permitted job exchange.1 ⟨s.db, before⟩ := by
  obtain ⟨before, after, hsplit⟩ := List.append_of_mem hmem
  exact ⟨before, h before exchange after hsplit⟩

theorem LogPermitted.agree {s : Observed} (h : LogPermitted job s) : CallsAgree job s := by
  refine ⟨h, ?_, ?_⟩
  · intro key keys policy sponsor username r key' keys' policy' sponsor' username' r' hmem hmem'
    obtain ⟨_, hkey, husername, hkeys⟩ := h.of_mem hmem
    obtain ⟨_, hkey', husername', hkeys'⟩ := h.of_mem hmem'
    exact ⟨hkey.trans hkey'.symm, husername.trans husername'.symm, hkeys.1.trans hkeys'.1.symm⟩
  · intro key policy sponsor username r key' policy' sponsor' username' r' hmem hmem'
    obtain ⟨_, hkey, husername, -⟩ := h.of_mem hmem
    obtain ⟨_, hkey', husername', -⟩ := h.of_mem hmem'
    exact ⟨hkey.trans hkey'.symm, husername.trans husername'.symm⟩

theorem Created.callsInv (hcreated : Created id db) (hfind : db.provisioning.find? id = some job) :
    CallsInv custody job ⟨db, []⟩ := by
  obtain ⟨row, hrow, hstate, -⟩ := hcreated.job
  obtain rfl := Option.some.inj (hrow.symm.trans hfind)
  obtain ⟨-, hid⟩ := Table.find?_eq_some.mp hfind
  refine ⟨⟨row, hid.symm ▸ hfind, rfl, fun hin => ?_⟩, .inl ?_, fun k hk hprov => ?_, ?_⟩
  · rw [hstate] at hin
    exact absurd hin (by decide)
  · refine List.map_eq_nil_iff.mpr (List.filter_eq_nil_iff.mpr fun k hk hprov => ?_)
    exact hcreated.keys k hk ((of_decide_eq_true hprov).trans hid)
  · exact absurd (hprov.trans hid) (hcreated.keys k hk)
  · intro before exchange after hsplit
    simp at hsplit

/-- **The calls of a job agree** in every run of any number of calls of `process`, with failures
and crashes anywhere. -/
theorem calls_agree (hcreated : Created id db) (hfind : db.provisioning.find? id = some job)
    {S : ObservedSys ι}
    {ts : List (Transition (ObservedSys ι) (SysLabel Request Request.Response Failure ι))}
    (hrun : Run (ObservedStep custody id now) (ObservedSys.start id now db) ts S) :
    CallsAgree job S.shared := by
  obtain ⟨-, hid⟩ := Table.find?_eq_some.mp hfind
  obtain rfl := hid
  have hinit : SysSafe (Advances custody job) (answerObserved custody) (fun _ => Advances custody job)
      (CallsInv custody job) (fun _ s => CallsInv custody job s) (ObservedSys.start job.id now db) :=
    ⟨hcreated.callsInv hfind, fun i => process_calls (hcreated.callsInv hfind)⟩
  have hkeeps : ∀ a b, Advances custody job a b → CallsInv custody job a → CallsInv custody job b :=
    fun _ _ hadv ha => (hadv ha).1
  have hsafe := (hrun.invariant' (fun m l m' hm hl => ?_) hinit).1
  · exact hsafe.1.log.agree
  · have hstep : SysStep (Advances custody job) (answerObserved custody)
        (fun i => process job.id (now i)) m l m' := by
      cases hl with
      | env h => exact .env h.advances
      | answer i hp h => exact .answer i hp h
      | restart i => exact .restart i
    exact (sysSafe_step (fun _ _ _ => .trans) (fun _ => hkeeps) hkeeps (fun _ => hkeeps)
      (fun _ _ _ _ _ _ h => h) (fun _ _ hi => process_calls hi) (.refl custody job) hm hstep).1

end Runs

/-- Answers a request as `serve` does, with a custody provider of one list, and logs it. -/
def serveObserved (visible : Bool) (q : Request) (s : Observed) :
    Except Failure q.Response × Observed :=
  ((serve (exampleReply visible) q s.db).1,
    ⟨(serve (exampleReply visible) q s.db).2,
      s.calls ++ [⟨q, (serve (exampleReply visible) q s.db).1⟩]⟩)

theorem serveObserved_answers (visible : Bool) (q : Request) (s : Observed) :
    answerObserved (fun _ => (exampleReply true).keys) q s (serveObserved visible q s).1
      (serveObserved visible q s).2 := by
  refine ⟨serve_answers (exampleReply visible) q s.db, ?_, rfl⟩
  cases q with
  | generateAuthorityKeys key id roles => exact fun keys hkeys => (Except.ok.inj hkeys).symm
  | _ => trivial

/-- The first call does not see the account and fails; the second call finishes. -/
def retriedSchedule : List (Bool × Bool) :=
  List.replicate 9 (false, false) ++ List.replicate 11 (true, true)

def retried : ObservedSys Bool :=
  (ObservedSys.start ⟨1⟩ exampleClock exampleDb).follow serveObserved
    (fun i => process ⟨1⟩ (exampleClock i)) retriedSchedule

/-- The idempotency keys of the account creations. -/
def accountKeys (calls : List Exchange) : List String :=
  calls.filterMap fun exchange => match exchange.1 with
    | .createClaimedAccount key _ _ _ _ => some key
    | _ => none

/-- Two calls create the account, with one key, and the job ends ready. -/
theorem calls_agree_retried :
    CallsAgree exampleJob retried.shared ∧
      accountKeys retried.shared.calls = ["provision:account", "provision:account"] ∧
      retried.shared.db.provisioning.rows.map (·.state) = [.ready] := by
  have hrun : ∃ ts, Run (ObservedStep (fun _ => (exampleReply true).keys) ⟨1⟩ exampleClock)
      (.start ⟨1⟩ exampleClock exampleDb) ts retried :=
    Sys.follow_run serveObserved_answers retriedSchedule _
  obtain ⟨ts, hrun⟩ := hrun
  exact ⟨calls_agree exampleDb_created (by decide) hrun, by decide +kernel, by decide +kernel⟩

end HiveChameleon.Provisioning
