import HiveChameleon.Nakama.EnsureMatch

/-!
# Nakama.EnsureFailures — one call of `ensureLobbyMatch` when Nakama fails

A lookup of a match has three outcomes: found, absent, or an error.  The call returns on the first one
and goes on to create and bind a new match on the other two, so an error of the lookup unbinds a match
that is still running.  The second lookup, after a lost write, fails on an error instead.
-/

namespace HiveChameleon.Nakama

open Lib

/-- The outcome of `MatchGet`. -/
inductive MatchLookup where
  | found | absent | error
deriving DecidableEq, Repr

/-- What Nakama answers to one call: where it fails, and the id of a match that it creates. -/
structure NakamaAnswers where
  readFails : Bool
  lookupFails : Bool
  /-- `none` when `MatchCreate` fails. -/
  created : Option MatchId
  writeFails : Bool
  signalDelivered : Bool
  rereadFails : Bool
  winnerLookupFails : Bool
deriving DecidableEq, Repr

/-- The binding object of a lobby and the matches that run. -/
structure LobbyMatches where
  storage : Cell LobbyMatchBinding
  live : List MatchId
deriving DecidableEq

/-- `MatchGet`; without an error it reports truthfully. -/
def matchGet (fails : Bool) (S : LobbyMatches) (matchId : MatchId) : MatchLookup :=
  if fails then .error else if matchId ∈ S.live then .found else .absent

/-- The winner of a lost write is taken if it runs. -/
def takeLobbyMatch (a : NakamaAnswers) (S : LobbyMatches) : Except EnsureError MatchId × LobbyMatches :=
  if a.rereadFails then (.error .claimBinding, S)
  else
    match S.storage with
    | none => (.error .claimBinding, S)
    | some winner =>
      match winner.value with
      | none => (.error .invalidBinding, S)
      | some matchId =>
        match matchGet a.winnerLookupFails S matchId with
        | .found => (.ok matchId, S)
        | _ => (.error .changedConcurrently, S)

/-- After a failed write the candidate is signalled to terminate. -/
def loseLobbyMatch (a : NakamaAnswers) (candidateId : MatchId) (S : LobbyMatches) :
    Except EnsureError MatchId × LobbyMatches :=
  takeLobbyMatch a { S with live := if a.signalDelivered then S.live.filter (· ≠ candidateId) else S.live }

/-- The write of a candidate under the version that was read. -/
def bindLobbyMatch (a : NakamaAnswers) (seen : Cell LobbyMatchBinding) (candidateId : MatchId)
    (S : LobbyMatches) : Except EnsureError MatchId × LobbyMatches :=
  if a.writeFails then loseLobbyMatch a candidateId S
  else
    match S.storage.write seen.expected (some candidateId) with
    | none => loseLobbyMatch a candidateId S
    | some object => (.ok candidateId, { S with storage := some object })

/-- The creation of a match for a lobby whose bound match was not found. -/
def createLobbyMatch (a : NakamaAnswers) (seen : Cell LobbyMatchBinding) (S : LobbyMatches) :
    Except EnsureError MatchId × LobbyMatches :=
  match a.created with
  | none => (.error .createMatch, S)
  | some candidateId => bindLobbyMatch a seen candidateId { S with live := candidateId :: S.live }

/-- `ensureLobbyMatch`: its answer, and what it leaves. -/
def ensureLobbyMatch (a : NakamaAnswers) (S : LobbyMatches) : Except EnsureError MatchId × LobbyMatches :=
  if a.readFails then (.error .readBinding, S)
  else
    match boundMatch S.storage with
    | none => createLobbyMatch a S.storage S
    | some matchId =>
      match matchGet a.lookupFails S matchId with
      | .found => (.ok matchId, S)
      | _ => createLobbyMatch a S.storage S

/-! ### What a call leaves -/

section Calls

variable (a : NakamaAnswers) {S : LobbyMatches} {seen : Cell LobbyMatchBinding} {matchId : MatchId}

theorem loseLobbyMatch_keeps (candidateId : MatchId) (S : LobbyMatches) :
    (loseLobbyMatch a candidateId S).2.storage = S.storage ∧
      ∀ matchId ∈ S.live, matchId ≠ candidateId → matchId ∈ (loseLobbyMatch a candidateId S).2.live := by
  have hlive : ∀ matchId ∈ S.live, matchId ≠ candidateId →
      matchId ∈ (if a.signalDelivered then S.live.filter (· ≠ candidateId) else S.live) := by
    intro matchId hmem hne
    by_cases hsignal : a.signalDelivered = true
    · rw [if_pos hsignal]
      exact List.mem_filter.mpr ⟨hmem, decide_eq_true hne⟩
    · rw [if_neg hsignal]
      exact hmem
  have htaken (S : LobbyMatches) : (takeLobbyMatch a S).2 = S := by
    unfold takeLobbyMatch
    split
    · rfl
    · split
      · rfl
      · split
        · rfl
        · split <;> rfl
  rw [loseLobbyMatch, htaken]
  exact ⟨rfl, hlive⟩

theorem bindLobbyMatch_eq (candidateId : MatchId) (hseen : seen = S.storage) :
    (a.writeFails = true ∧ bindLobbyMatch a seen candidateId S = loseLobbyMatch a candidateId S) ∨
      (a.writeFails = false ∧ ∃ object : Versioned LobbyMatchBinding, object.value = some candidateId ∧
        bindLobbyMatch a seen candidateId S = (.ok candidateId, { S with storage := some object })) := by
  subst hseen
  unfold bindLobbyMatch
  by_cases hfails : a.writeFails = true
  · rw [if_pos hfails]
    exact .inl ⟨hfails, rfl⟩
  · have hwritten : ∃ object, S.storage.write S.storage.expected (some candidateId) = some object :=
      Cell.write_self
    obtain ⟨object, hwrite⟩ := hwritten
    rw [if_neg hfails, hwrite]
    exact .inr ⟨by simpa using hfails, object, (Cell.writes_write hwrite).1, rfl⟩

/-- What the creation leaves: the binding, or its candidate; and the matches that run, if its candidate
is none of them. -/
theorem createLobbyMatch_spec (S : LobbyMatches) :
    ((a.created = none ∨ a.writeFails = true) ∧ (createLobbyMatch a S.storage S).2.storage = S.storage ∨
        ∃ candidateId, a.created = some candidateId ∧ a.writeFails = false ∧
          boundMatch (createLobbyMatch a S.storage S).2.storage = some candidateId) ∧
      ∀ matchId ∈ S.live, (∀ id ∈ a.created, id ∉ S.live) →
        matchId ∈ (createLobbyMatch a S.storage S).2.live := by
  unfold createLobbyMatch
  cases hcreated : a.created with
  | none => exact ⟨.inl ⟨.inl rfl, rfl⟩, fun matchId hlive _ => hlive⟩
  | some candidateId =>
    have hne (matchId : MatchId) (hlive : matchId ∈ S.live) (hfresh : ∀ id ∈ some candidateId, id ∉ S.live) :
        matchId ≠ candidateId := fun h => hfresh candidateId rfl (h ▸ hlive)
    dsimp only
    have hseen : S.storage = ({ S with live := candidateId :: S.live } : LobbyMatches).storage := rfl
    rcases bindLobbyMatch_eq a candidateId hseen with ⟨hfails, hlost⟩ | ⟨hwritten, object, hvalue, hbound⟩
    · rw [hlost]
      obtain ⟨hstorage, hlive⟩ := loseLobbyMatch_keeps a candidateId { S with live := candidateId :: S.live }
      exact ⟨.inl ⟨.inr hfails, hstorage⟩, fun matchId hmem hfresh =>
        hlive matchId (List.mem_cons_of_mem _ hmem) (hne matchId hmem hfresh)⟩
    · rw [hbound]
      exact ⟨.inr ⟨candidateId, rfl, hwritten, hvalue⟩, fun matchId hmem _ => List.mem_cons_of_mem _ hmem⟩

end Calls

/-! ### The law -/

/-- **The lobby keeps its match**: a bound match that runs stays bound and runs on, and an error of its
lookup leaves the binding as it was. -/
structure KeepsLobbyMatch (a : NakamaAnswers) (S : LobbyMatches) : Prop where
  running : ∀ matchId, boundMatch S.storage = some matchId → matchId ∈ S.live →
    (ensureLobbyMatch a S).2.storage = S.storage ∧ matchId ∈ (ensureLobbyMatch a S).2.live
  failed : ∀ matchId, a.readFails = false → boundMatch S.storage = some matchId →
    matchGet a.lookupFails S matchId = .error → (ensureLobbyMatch a S).2.storage = S.storage

/-- `MatchCreate` gives ids of its own. -/
def Fresh (a : NakamaAnswers) (S : LobbyMatches) : Prop :=
  ∀ id ∈ a.created, id ∉ S.live ∧ boundMatch S.storage ≠ some id

instance (a : NakamaAnswers) (S : LobbyMatches) : Decidable (Fresh a S) :=
  inferInstanceAs (Decidable (∀ _ ∈ _, _))

/-- The answers on which a call unbinds a match that it could not look up. -/
def Unbinds (a : NakamaAnswers) (S : LobbyMatches) : Prop :=
  a.readFails = false ∧ (boundMatch S.storage).isSome ∧ a.lookupFails = true ∧ a.created.isSome ∧
    a.writeFails = false

instance (a : NakamaAnswers) (S : LobbyMatches) : Decidable (Unbinds a S) :=
  inferInstanceAs (Decidable (_ ∧ _))

section Law

variable {a : NakamaAnswers} {S : LobbyMatches} {matchId : MatchId}

theorem ensureLobbyMatch_of_error (hread : a.readFails = false) (hbound : boundMatch S.storage = some matchId)
    (hlookup : a.lookupFails = true) : ensureLobbyMatch a S = createLobbyMatch a S.storage S := by
  simp [ensureLobbyMatch, hread, hbound, matchGet, hlookup]

theorem ensureLobbyMatch_of_found (hread : a.readFails = false) (hbound : boundMatch S.storage = some matchId)
    (hlookup : a.lookupFails = false) (hlive : matchId ∈ S.live) : ensureLobbyMatch a S = (.ok matchId, S) := by
  simp [ensureLobbyMatch, hread, hbound, matchGet, hlookup, hlive]

theorem ensureLobbyMatch_of_readFails (hread : a.readFails = true) :
    ensureLobbyMatch a S = (.error .readBinding, S) := by
  simp [ensureLobbyMatch, hread]

/-- **A lobby keeps its match exactly when its call does not unbind it**: the binding was not read or
names no match, the lookup did not fail, or the creation or the write of another match failed. -/
theorem keepsLobbyMatch_iff (hfresh : Fresh a S) : KeepsLobbyMatch a S ↔ ¬ Unbinds a S := by
  obtain ⟨hstorage, hlives⟩ := createLobbyMatch_spec a S
  constructor
  · rintro ⟨-, hfailed⟩ ⟨hread, hsome, hlookup, hcreated, hwrite⟩
    obtain ⟨matchId, hbound⟩ := Option.isSome_iff_exists.mp hsome
    have hkept := hfailed matchId hread hbound (by simp [matchGet, hlookup])
    rw [ensureLobbyMatch_of_error hread hbound hlookup] at hkept
    rcases hstorage with ⟨hnone | hfails, -⟩ | ⟨candidateId, hcandidate, -, hrebound⟩
    · rw [hnone] at hcreated
      cases hcreated
    · rw [hwrite] at hfails
      cases hfails
    · rw [hkept] at hrebound
      exact (hfresh candidateId hcandidate).2 hrebound
  · intro hnot
    -- a creation after a failing lookup does not bind its match
    have hcreation : ∀ matchId, a.readFails = false → boundMatch S.storage = some matchId →
        a.lookupFails = true → (createLobbyMatch a S.storage S).2.storage = S.storage := by
      intro matchId hread hbound hlookup
      rcases hstorage with ⟨-, hkept⟩ | ⟨candidateId, hcandidate, hwrite, -⟩
      · exact hkept
      · exact absurd ⟨hread, by rw [hbound]; rfl, hlookup, by rw [hcandidate]; rfl, hwrite⟩ hnot
    refine ⟨fun matchId hbound hlive => ?_, fun matchId hread hbound herror => ?_⟩
    · cases hread : a.readFails with
      | true =>
        rw [ensureLobbyMatch_of_readFails hread]
        exact ⟨rfl, hlive⟩
      | false =>
        cases hlookup : a.lookupFails with
        | false =>
          rw [ensureLobbyMatch_of_found hread hbound hlookup hlive]
          exact ⟨rfl, hlive⟩
        | true =>
          rw [ensureLobbyMatch_of_error hread hbound hlookup]
          exact ⟨hcreation matchId hread hbound hlookup, hlives matchId hlive fun id hid => (hfresh id hid).1⟩
    · have hlookup : a.lookupFails = true := by
        by_contra hok
        rw [matchGet, if_neg hok] at herror
        split at herror <;> cases herror
      rw [ensureLobbyMatch_of_error hread hbound hlookup]
      exact hcreation matchId hread hbound hlookup

end Law

/-- A lookup that works finds the match. -/
theorem keepsLobbyMatch_of_lookup :
    KeepsLobbyMatch ⟨false, false, some "second", false, true, false, false⟩ ⟨some ⟨some "first", 3⟩, ["first"]⟩ :=
  (keepsLobbyMatch_iff (by decide)).mpr (by decide)

/-- One lookup times out: the lobby is bound to a second match while its first one runs on. -/
theorem splits_on_lookup_error :
    ¬ KeepsLobbyMatch ⟨false, true, some "second", false, true, false, false⟩
        ⟨some ⟨some "first", 3⟩, ["first"]⟩ ∧
      ensureLobbyMatch ⟨false, true, some "second", false, true, false, false⟩
          ⟨some ⟨some "first", 3⟩, ["first"]⟩ =
        (.ok "second", ⟨some ⟨some "second", 4⟩, ["second", "first"]⟩) := by
  refine ⟨fun h => ?_, by decide⟩
  have hkept := (h.running "first" (by decide) (by decide)).1
  exact absurd hkept (by decide)

/-! ### The call among the steps of all callers -/

/-- The steps of `EnsureLabel`, and lookups that fail with an error. -/
inductive FailingLabel (ι : Type) where
  | call (l : EnsureLabel ι)
  | lookupError (c : ι)

/-- A first lookup that fails is taken for an absent match; a second one fails the call. -/
def EnsureSys.execFailing {ι : Type} [DecidableEq ι] (T : EnsureSys ι) : FailingLabel ι → Option (EnsureSys ι)
  | .call l => T.exec l
  | .lookupError c =>
    match T.call c with
    | .looking seen _ => some (T.set c (.creating seen))
    | .checking _ _ _ => some (T.set c (.failed .changedConcurrently))
    | _ => none

def FailingStep {ι : Type} [DecidableEq ι] (T : EnsureSys ι) (l : FailingLabel ι) (T' : EnsureSys ι) : Prop :=
  T.execFailing l = some T'

/-- Where a call stands once it has answered. -/
def answered : Except EnsureError MatchId → EnsureCall
  | .ok matchId => .returned matchId
  | .error e => .failed e

/-- The steps of a single caller lead to what its call answers and leaves. -/
def Reaches (T : EnsureSys Unit) (r : Except EnsureError MatchId × LobbyMatches) : Prop :=
  ∃ ts T', Run FailingStep T ts T' ∧ T'.storage = r.2.storage ∧ T'.live = r.2.live ∧
    T'.call () = answered r.1

section Single

variable {a : NakamaAnswers} {S : LobbyMatches} {T T' : EnsureSys Unit}
  {r : Except EnsureError MatchId × LobbyMatches} {candidateId matchId : MatchId}
  {seen : Cell LobbyMatchBinding}

theorem Reaches.done (hstorage : T.storage = r.2.storage) (hlive : T.live = r.2.live)
    (hcall : T.call () = answered r.1) : Reaches T r := ⟨[], T, .refl T, hstorage, hlive, hcall⟩

theorem Reaches.step {l : FailingLabel Unit} (hstep : FailingStep T l T') (h : Reaches T' r) :
    Reaches T r := by
  obtain ⟨ts, T'', hrun, hend⟩ := h
  exact ⟨_, T'', (Run.single hstep).append hrun, hend⟩

theorem reaches_take (a : NakamaAnswers) (hcall : T.call () = .rereading candidateId) :
    Reaches T (takeLobbyMatch a ⟨T.storage, T.live⟩) := by
  unfold takeLobbyMatch
  by_cases hreread : a.rereadFails = true
  · rw [if_pos hreread]
    have hfail : FailingStep T (.call (.fail ())) (T.set () (.failed .claimBinding)) := by
      simp [FailingStep, EnsureSys.execFailing, EnsureSys.exec, hcall, afterFailure]
    exact .step hfail (.done rfl rfl rfl)
  · rw [if_neg hreread]
    have hread : FailingStep T (.call (.reread ())) (T.set () (afterReread candidateId T.storage)) := by
      simp [FailingStep, EnsureSys.execFailing, EnsureSys.exec, hcall]
    refine .step hread ?_
    rcases hstorage : T.storage with _ | ⟨_ | matchId, version⟩
    · exact .done hstorage rfl rfl
    · exact .done hstorage rfl rfl
    · -- the winner is looked up
      have hchecking : (T.set () (afterReread candidateId (some ⟨some matchId, version⟩))).call () =
          .checking candidateId (some ⟨some matchId, version⟩) matchId := rfl
      dsimp only
      unfold matchGet
      by_cases hfails : a.winnerLookupFails = true
      · rw [if_pos hfails]
        exact .step (l := .lookupError ()) rfl (.done hstorage rfl rfl)
      · rw [if_neg hfails]
        by_cases hlive : matchId ∈ T.live
        · rw [if_pos hlive]
          have hlookup : FailingStep (T.set () (afterReread candidateId (some ⟨some matchId, version⟩)))
              (.call (.lookupWinner ())) (((T.set () (afterReread candidateId
                (some ⟨some matchId, version⟩)))).set () (.returned matchId)) := by
            simp only [FailingStep, EnsureSys.execFailing, EnsureSys.exec, hchecking]
            exact if_pos hlive
          exact .step hlookup (.done hstorage rfl rfl)
        · rw [if_neg hlive]
          have hlookup : FailingStep (T.set () (afterReread candidateId (some ⟨some matchId, version⟩)))
              (.call (.lookupWinner ())) (((T.set () (afterReread candidateId
                (some ⟨some matchId, version⟩)))).set () (.failed .changedConcurrently)) := by
            simp only [FailingStep, EnsureSys.execFailing, EnsureSys.exec, hchecking]
            exact if_neg hlive
          exact .step hlookup (.done hstorage rfl rfl)

theorem reaches_lose (a : NakamaAnswers) (hcall : T.call () = .losing candidateId) :
    Reaches T (loseLobbyMatch a candidateId ⟨T.storage, T.live⟩) := by
  have hsignal : FailingStep T (.call (.signal () a.signalDelivered)) { T with
      live := if a.signalDelivered then T.live.filter (· ≠ candidateId) else T.live
      signalled := candidateId :: T.signalled
      call := Function.update T.call () (.rereading candidateId) } := by
    simp [FailingStep, EnsureSys.execFailing, EnsureSys.exec, hcall]
  have hrereading : Function.update T.call () (EnsureCall.rereading candidateId) () =
      .rereading candidateId := rfl
  exact .step hsignal (reaches_take a hrereading)

theorem reaches_bind (a : NakamaAnswers) (hcall : T.call () = .binding seen candidateId) :
    Reaches T (bindLobbyMatch a seen candidateId ⟨T.storage, T.live⟩) := by
  have hlosing : (T.set () (.losing candidateId)).call () = .losing candidateId := rfl
  unfold bindLobbyMatch
  by_cases hfails : a.writeFails = true
  · rw [if_pos hfails]
    have hfail : FailingStep T (.call (.fail ())) (T.set () (.losing candidateId)) := by
      simp [FailingStep, EnsureSys.execFailing, EnsureSys.exec, hcall, afterFailure]
    exact .step hfail (reaches_lose a hlosing)
  · rw [if_neg hfails]
    cases hwrite : T.storage.write seen.expected (some candidateId) with
    | none =>
      have hlost : FailingStep T (.call (.write ())) (T.set () (.losing candidateId)) := by
        simp [FailingStep, EnsureSys.execFailing, EnsureSys.exec, hcall, hwrite]
      exact .step hlost (reaches_lose a hlosing)
    | some object =>
      have hbound : FailingStep T (.call (.write ())) { T with
          storage := some object
          call := Function.update T.call () (.returned candidateId) } := by
        simp [FailingStep, EnsureSys.execFailing, EnsureSys.exec, hcall, hwrite]
      exact .step hbound (.done rfl rfl rfl)

theorem reaches_create (hnew : ∀ id ∈ a.created, id ∉ T.known) (hcall : T.call () = .creating seen) :
    Reaches T (createLobbyMatch a seen ⟨T.storage, T.live⟩) := by
  unfold createLobbyMatch
  cases hcreated : a.created with
  | none =>
    have hfail : FailingStep T (.call (.fail ())) (T.set () (.failed .createMatch)) := by
      simp [FailingStep, EnsureSys.execFailing, EnsureSys.exec, hcall, afterFailure]
    exact .step hfail (.done rfl rfl rfl)
  | some candidateId =>
    have hcreate : FailingStep T (.call (.create () candidateId)) { T with
        known := candidateId :: T.known
        live := candidateId :: T.live
        call := Function.update T.call () (.binding seen candidateId)
        made := Function.update T.made () (some candidateId) } := by
      simp [FailingStep, EnsureSys.execFailing, EnsureSys.exec, hcall, hnew candidateId hcreated]
    have hbinding : Function.update T.call () (EnsureCall.binding seen candidateId) () =
        .binding seen candidateId := rfl
    exact .step hcreate (reaches_bind a hbinding)

/-- **The call is a run of its caller's steps**: what it answers and leaves, the steps lead to. -/
theorem ensureLobbyMatch_run (known : List MatchId) (hnew : ∀ id ∈ a.created, id ∉ known) :
    Reaches (EnsureSys.start Unit S.storage known S.live) (ensureLobbyMatch a S) := by
  have hstart : (EnsureSys.start Unit S.storage known S.live).call () = .reading := rfl
  unfold ensureLobbyMatch
  by_cases hread : a.readFails = true
  · rw [if_pos hread]
    exact .step (l := .call (.fail ())) rfl (.done rfl rfl rfl)
  · rw [if_neg hread]
    have hreads : FailingStep (EnsureSys.start Unit S.storage known S.live) (.call (.read ()))
        ((EnsureSys.start Unit S.storage known S.live).set () (afterRead S.storage)) := rfl
    refine .step hreads ?_
    unfold afterRead
    cases hbound : boundMatch S.storage with
    | none => exact reaches_create hnew rfl
    | some matchId =>
      dsimp only
      unfold matchGet
      by_cases hfails : a.lookupFails = true
      · rw [if_pos hfails]
        exact .step (l := .lookupError ()) rfl (reaches_create hnew rfl)
      · rw [if_neg hfails]
        by_cases hlive : matchId ∈ S.live
        · rw [if_pos hlive]
          have hlookup : FailingStep
              ((EnsureSys.start Unit S.storage known S.live).set () (.looking S.storage matchId))
              (.call (.lookup ())) (((EnsureSys.start Unit S.storage known S.live).set ()
                (.looking S.storage matchId)).set () (.returned matchId)) := if_pos hlive
          exact .step hlookup (.done rfl rfl rfl)
        · rw [if_neg hlive]
          have hlookup : FailingStep
              ((EnsureSys.start Unit S.storage known S.live).set () (.looking S.storage matchId))
              (.call (.lookup ())) (((EnsureSys.start Unit S.storage known S.live).set ()
                (.looking S.storage matchId)).set () (.creating S.storage)) := if_neg hlive
          exact .step hlookup (reaches_create hnew rfl)

end Single

end HiveChameleon.Nakama
