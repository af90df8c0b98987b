import HiveChameleon.Lib.Optimistic
import HiveChameleon.Lib.Run
import Mathlib.Logic.Function.Basic

/-!
# Nakama.EnsureMatch — concurrent callers agree on one lobby match

`ensureLobbyMatch` reads the binding of a lobby, looks its match up, and otherwise creates a candidate
and writes it under the version that was read; a caller whose write fails signals its candidate to
terminate and takes the winner.  Every call to Nakama is a step of its own, so the steps of any number
of callers interleave.
-/

namespace HiveChameleon.Nakama

open Lib

abbrev MatchId := String

/-- The value of a binding object; `none` when it does not parse to a match id. -/
abbrev LobbyMatchBinding := Option MatchId

/-- The match that a binding object names. -/
def boundMatch (cell : Cell LobbyMatchBinding) : Option MatchId := cell.bind Versioned.value

/-- The errors of `ensureLobbyMatch`. -/
inductive EnsureError where
  | readBinding | createMatch | claimBinding | invalidBinding | changedConcurrently
deriving DecidableEq, Repr

/-- Where a call of `ensureLobbyMatch` stands: the next call to Nakama that it makes. -/
inductive EnsureCall where
  | reading
  | looking (seen : Cell LobbyMatchBinding) (matchId : MatchId)
  | creating (seen : Cell LobbyMatchBinding)
  | binding (seen : Cell LobbyMatchBinding) (candidateId : MatchId)
  | losing (candidateId : MatchId)
  | rereading (candidateId : MatchId)
  | checking (candidateId : MatchId) (winner : Cell LobbyMatchBinding) (matchId : MatchId)
  | returned (matchId : MatchId)
  | failed (e : EnsureError)
deriving DecidableEq

/-- The binding object of the lobby, the ids in use, the live matches, the matches signalled to
terminate, the calls, and the match that each call created. -/
structure EnsureSys (ι : Type) where
  storage : Cell LobbyMatchBinding
  known : List MatchId
  live : List MatchId
  signalled : List MatchId
  call : ι → EnsureCall
  made : ι → Option MatchId

/-- The steps of a call; a storage or match error of Nakama is `fail`.  `die` ends a match. -/
inductive EnsureLabel (ι : Type) where
  | read (c : ι)
  | lookup (c : ι)
  | create (c : ι) (matchId : MatchId)
  | write (c : ι)
  | fail (c : ι)
  | signal (c : ι) (delivered : Bool)
  | reread (c : ι)
  | lookupWinner (c : ι)
  | die (matchId : MatchId)

section

variable {ι : Type} [DecidableEq ι]

def EnsureSys.set (S : EnsureSys ι) (c : ι) (call : EnsureCall) : EnsureSys ι :=
  { S with call := Function.update S.call c call }

/-- After the first read: an object with a binding is looked up. -/
def afterRead (cell : Cell LobbyMatchBinding) : EnsureCall :=
  match boundMatch cell with
  | some matchId => .looking cell matchId
  | none => .creating cell

/-- After the second read. -/
def afterReread (candidateId : MatchId) (cell : Cell LobbyMatchBinding) : EnsureCall :=
  match cell with
  | none => .failed .claimBinding
  | some object =>
    match object.value with
    | none => .failed .invalidBinding
    | some matchId => .checking candidateId cell matchId

/-- An error of Nakama; a failed write makes a loser of the call. -/
def afterFailure : EnsureCall → Option EnsureCall
  | .reading => some (.failed .readBinding)
  | .creating _ => some (.failed .createMatch)
  | .binding _ candidateId => some (.losing candidateId)
  | .rereading _ => some (.failed .claimBinding)
  | _ => none

/-- One step of a call; `none` when the label does not apply. -/
def EnsureSys.exec (S : EnsureSys ι) : EnsureLabel ι → Option (EnsureSys ι)
  | .read c =>
    match S.call c with
    | .reading => some (S.set c (afterRead S.storage))
    | _ => none
  | .lookup c =>
    match S.call c with
    | .looking seen matchId =>
      if matchId ∈ S.live then some (S.set c (.returned matchId)) else some (S.set c (.creating seen))
    | _ => none
  | .create c matchId =>
    match S.call c with
    | .creating seen =>
      if matchId ∈ S.known then none
      else
        some { S with
          known := matchId :: S.known
          live := matchId :: S.live
          call := Function.update S.call c (.binding seen matchId)
          made := Function.update S.made c (some matchId) }
    | _ => none
  | .write c =>
    match S.call c with
    | .binding seen candidateId =>
      match S.storage.write seen.expected (some candidateId) with
      | none => some (S.set c (.losing candidateId))
      | some object =>
        some { S with
          storage := some object
          call := Function.update S.call c (.returned candidateId) }
    | _ => none
  | .fail c => (afterFailure (S.call c)).map (S.set c)
  | .signal c delivered =>
    match S.call c with
    | .losing candidateId =>
      some { S with
        live := if delivered then S.live.filter (· ≠ candidateId) else S.live
        signalled := candidateId :: S.signalled
        call := Function.update S.call c (.rereading candidateId) }
    | _ => none
  | .reread c =>
    match S.call c with
    | .rereading candidateId => some (S.set c (afterReread candidateId S.storage))
    | _ => none
  | .lookupWinner c =>
    match S.call c with
    | .checking _ _ matchId =>
      if matchId ∈ S.live then some (S.set c (.returned matchId))
      else some (S.set c (.failed .changedConcurrently))
    | _ => none
  | .die matchId => some { S with live := S.live.filter (· ≠ matchId) }

/-- A step in which the bound match does not die; a match is live when it is bound. -/
def EnsureStep (S : EnsureSys ι) (l : EnsureLabel ι) (S' : EnsureSys ι) : Prop :=
  S.exec l = some S' ∧ (∀ matchId, l = .die matchId → boundMatch S.storage ≠ some matchId) ∧
    ∀ matchId, boundMatch S'.storage = some matchId → S'.storage ≠ S.storage → matchId ∈ S.live

/-- No call has read; the object may bind any match, live or dead. -/
def EnsureSys.start (ι : Type) (storage : Cell LobbyMatchBinding) (known live : List MatchId) :
    EnsureSys ι := ⟨storage, known, live, [], fun _ => .reading, fun _ => none⟩

end

/-! ### The law -/

/-- **Agreement**: calls that return, return the match that is bound, and it is live; a match that a
finished call created is this one or was signalled to terminate. -/
structure EnsureAgreement {ι : Type} (S : EnsureSys ι) : Prop where
  agree : ∀ c d matchId matchId', S.call c = .returned matchId → S.call d = .returned matchId' →
    matchId = matchId'
  bound : ∀ c matchId, S.call c = .returned matchId →
    boundMatch S.storage = some matchId ∧ matchId ∈ S.live
  terminated : ∀ c candidateId, S.made c = some candidateId →
    (∀ matchId, S.call c = .returned matchId → candidateId ≠ matchId → candidateId ∈ S.signalled) ∧
      ∀ e, S.call c = .failed e → candidateId ∈ S.signalled

section

variable {ι : Type} {S S' : EnsureSys ι} {c : ι} {call : EnsureCall}

/-- What was read is still the object while its match is live. -/
def Current (S : EnsureSys ι) (seen : Cell LobbyMatchBinding) (matchId : MatchId) : Prop :=
  boundMatch seen = some matchId ∧ matchId ∈ S.known ∧ (matchId ∈ S.live → seen = S.storage)

/-- The object that was read binds no live match. -/
def Stale (S : EnsureSys ι) (seen : Cell LobbyMatchBinding) : Prop :=
  seen.SeenOf S.storage ∧ ∀ matchId ∈ boundMatch seen, matchId ∈ S.known ∧ matchId ∉ S.live

/-- The candidate of a call is its own, and no one bound it. -/
def Unbound (S : EnsureSys ι) (c : ι) (candidateId : MatchId) : Prop :=
  S.made c = some candidateId ∧ boundMatch S.storage ≠ some candidateId

/-- What a call knows. -/
def EnsureSound (S : EnsureSys ι) (c : ι) : EnsureCall → Prop
  | .reading => S.made c = none
  | .looking seen matchId => S.made c = none ∧ seen.SeenOf S.storage ∧ Current S seen matchId
  | .creating seen => S.made c = none ∧ Stale S seen
  | .binding seen candidateId => Unbound S c candidateId ∧ Stale S seen
  | .losing candidateId => Unbound S c candidateId
  | .rereading candidateId => Unbound S c candidateId ∧ candidateId ∈ S.signalled
  | .checking candidateId winner matchId =>
    S.made c = some candidateId ∧ candidateId ∈ S.signalled ∧ Current S winner matchId
  | .returned matchId => boundMatch S.storage = some matchId ∧ matchId ∈ S.live ∧
    ∀ candidateId ∈ S.made c, candidateId ≠ matchId → candidateId ∈ S.signalled
  | .failed _ => ∀ candidateId ∈ S.made c, candidateId ∈ S.signalled

structure EnsureInv (S : EnsureSys ι) : Prop where
  calls : ∀ c, EnsureSound S c (S.call c)
  live_known : ∀ matchId ∈ S.live, matchId ∈ S.known
  bound_known : ∀ matchId ∈ boundMatch S.storage, matchId ∈ S.known
  made_known : ∀ c, ∀ matchId ∈ S.made c, matchId ∈ S.known
  made_own : ∀ c d matchId, S.made c = some matchId → S.made d = some matchId → c = d

theorem EnsureInv.agreement (h : EnsureInv S) : EnsureAgreement S := by
  have hbound : ∀ c matchId, S.call c = .returned matchId →
      boundMatch S.storage = some matchId ∧ matchId ∈ S.live ∧
        ∀ candidateId ∈ S.made c, candidateId ≠ matchId → candidateId ∈ S.signalled := by
    intro c matchId hcall
    have hsound := h.calls c
    rw [hcall] at hsound
    exact hsound
  refine ⟨fun c d matchId matchId' hc hd => ?_, fun c matchId hc => ?_, fun c candidateId hmade =>
    ⟨fun matchId hc hne => (hbound c matchId hc).2.2 candidateId hmade hne, fun e hc => ?_⟩⟩
  · exact Option.some.inj ((hbound c matchId hc).1.symm.trans (hbound d matchId' hd).1)
  · exact ⟨(hbound c matchId hc).1, (hbound c matchId hc).2.1⟩
  · have hsound := h.calls c
    rw [hc] at hsound
    exact hsound candidateId hmade

/-! ### Steps -/

/-- What the other calls know survives a step that keeps these. -/
structure EnsureFrame (S S' : EnsureSys ι) (c : ι) : Prop where
  made : S'.made c = S.made c
  known : ∀ matchId ∈ S.known, matchId ∈ S'.known
  /-- A match does not come to life again. -/
  dead : ∀ matchId ∈ S.known, matchId ∉ S.live → matchId ∉ S'.live
  signalled : ∀ matchId ∈ S.signalled, matchId ∈ S'.signalled
  seen : ∀ seen : Cell LobbyMatchBinding, seen.SeenOf S.storage → seen.SeenOf S'.storage
  /-- A bound match that is live stays bound and live. -/
  bound : ∀ matchId, boundMatch S.storage = some matchId → matchId ∈ S.live →
    S'.storage = S.storage ∧ matchId ∈ S'.live
  /-- No one binds the candidate of another call. -/
  unbound : ∀ candidateId, S.made c = some candidateId → boundMatch S.storage ≠ some candidateId →
    boundMatch S'.storage ≠ some candidateId

theorem EnsureFrame.current {seen : Cell LobbyMatchBinding} {matchId : MatchId}
    (hf : EnsureFrame S S' c) (h : Current S seen matchId) : Current S' seen matchId := by
  obtain ⟨hbound, hknown, hlive⟩ := h
  refine ⟨hbound, hf.known matchId hknown, fun hlive' => ?_⟩
  have hwas : matchId ∈ S.live := by
    by_contra hdead
    exact hf.dead matchId hknown hdead hlive'
  have hsame := hlive hwas
  rw [(hf.bound matchId (hsame ▸ hbound) hwas).1]
  exact hsame

theorem EnsureFrame.stale {seen : Cell LobbyMatchBinding} (hf : EnsureFrame S S' c)
    (h : Stale S seen) : Stale S' seen := by
  obtain ⟨hseen, hdead⟩ := h
  refine ⟨hf.seen seen hseen, fun matchId hbound => ?_⟩
  obtain ⟨hknown, hnot⟩ := hdead matchId hbound
  exact ⟨hf.known matchId hknown, hf.dead matchId hknown hnot⟩

theorem EnsureFrame.sound (hf : EnsureFrame S S' c) (h : EnsureSound S c (S.call c)) :
    EnsureSound S' c (S.call c) := by
  cases hcall : S.call c with
  | reading =>
    rw [hcall] at h
    exact hf.made.trans h
  | looking seen matchId =>
    rw [hcall] at h
    exact ⟨hf.made.trans h.1, hf.seen seen h.2.1, hf.current h.2.2⟩
  | creating seen =>
    rw [hcall] at h
    exact ⟨hf.made.trans h.1, hf.stale h.2⟩
  | binding seen candidateId =>
    rw [hcall] at h
    obtain ⟨⟨hmade, hunbound⟩, hstale⟩ := h
    exact ⟨⟨hf.made.trans hmade, hf.unbound candidateId hmade hunbound⟩, hf.stale hstale⟩
  | losing candidateId =>
    rw [hcall] at h
    exact ⟨hf.made.trans h.1, hf.unbound candidateId h.1 h.2⟩
  | rereading candidateId =>
    rw [hcall] at h
    obtain ⟨⟨hmade, hunbound⟩, hsignalled⟩ := h
    exact ⟨⟨hf.made.trans hmade, hf.unbound candidateId hmade hunbound⟩,
      hf.signalled candidateId hsignalled⟩
  | checking candidateId winner matchId =>
    rw [hcall] at h
    exact ⟨hf.made.trans h.1, hf.signalled candidateId h.2.1, hf.current h.2.2⟩
  | returned matchId =>
    rw [hcall] at h
    obtain ⟨hbound, hlive, hsignalled⟩ := h
    obtain ⟨hsame, hlive'⟩ := hf.bound matchId hbound hlive
    refine ⟨hsame ▸ hbound, hlive', fun candidateId hmade hne => ?_⟩
    rw [hf.made] at hmade
    exact hf.signalled candidateId (hsignalled candidateId hmade hne)
  | failed e =>
    rw [hcall] at h
    intro candidateId hmade
    rw [hf.made] at hmade
    exact hf.signalled candidateId (h candidateId hmade)

theorem afterRead_sound (h : EnsureInv S) (hmade : S.made c = none) :
    EnsureSound S c (afterRead S.storage) := by
  unfold afterRead
  cases hbound : boundMatch S.storage with
  | none =>
    refine ⟨hmade, .rfl, fun matchId hm => ?_⟩
    rw [hbound] at hm
    cases hm
  | some matchId => exact ⟨hmade, .rfl, hbound, h.bound_known matchId hbound, fun _ => rfl⟩

theorem afterReread_sound (h : EnsureInv S) {candidateId : MatchId}
    (hmade : S.made c = some candidateId) (hsignalled : candidateId ∈ S.signalled) :
    EnsureSound S c (afterReread candidateId S.storage) := by
  have hfailed : ∀ own ∈ S.made c, own ∈ S.signalled := by
    intro own hown
    rw [hmade] at hown
    exact Option.some.inj hown ▸ hsignalled
  unfold afterReread
  cases hstorage : S.storage with
  | none => exact hfailed
  | some object =>
    cases hvalue : object.value with
    | none =>
      simp only [hvalue]
      exact hfailed
    | some matchId =>
      have hbound : boundMatch S.storage = some matchId := by rw [hstorage]; exact hvalue
      simp only [hvalue]
      rw [← hstorage]
      exact ⟨hmade, hsignalled, hbound, h.bound_known matchId hbound, fun _ => rfl⟩

theorem Current.bound {seen : Cell LobbyMatchBinding} {matchId : MatchId}
    (h : Current S seen matchId) (hlive : matchId ∈ S.live) :
    boundMatch S.storage = some matchId := by
  rw [← h.2.2 hlive]
  exact h.1

theorem Current.stale {seen : Cell LobbyMatchBinding} {matchId : MatchId}
    (h : Current S seen matchId) (hseen : seen.SeenOf S.storage) (hdead : matchId ∉ S.live) :
    Stale S seen := by
  refine ⟨hseen, fun matchId' hbound => ?_⟩
  rw [h.1] at hbound
  obtain rfl := Option.some.inj hbound
  exact ⟨h.2.1, hdead⟩

theorem afterFailure_sound {call' : EnsureCall} (hsound : EnsureSound S c call)
    (hfail : afterFailure call = some call') : EnsureSound S c call' := by
  have hnone : S.made c = none → ∀ candidateId ∈ S.made c, candidateId ∈ S.signalled := by
    intro hmade candidateId hown
    rw [hmade] at hown
    cases hown
  cases call with
  | reading =>
    obtain rfl := Option.some.inj hfail
    exact hnone hsound
  | creating seen =>
    obtain rfl := Option.some.inj hfail
    exact hnone hsound.1
  | binding seen candidateId =>
    obtain rfl := Option.some.inj hfail
    exact hsound.1
  | rereading candidateId =>
    obtain rfl := Option.some.inj hfail
    intro own hown
    rw [hsound.1.1] at hown
    exact Option.some.inj hown ▸ hsound.2
  | looking | losing | checking | returned | failed => cases hfail

end

section

variable {ι : Type} [DecidableEq ι] {S S' : EnsureSys ι} {c : ι} {call : EnsureCall}

/-- The calls after a step of `c` that frames the others. -/
theorem EnsureInv.sound_update (h : EnsureInv S) (hcall : S'.call = Function.update S.call c call)
    (hsound : EnsureSound S' c call) (hframe : ∀ d, d ≠ c → EnsureFrame S S' d) (d : ι) :
    EnsureSound S' d (S'.call d) := by
  by_cases hd : d = c
  · subst hd
    rw [hcall, Function.update_self]
    exact hsound
  · rw [hcall, Function.update_of_ne hd]
    exact (hframe d hd).sound (h.calls d)

theorem EnsureInv.set (h : EnsureInv S) (hsound : EnsureSound S c call) :
    EnsureInv (S.set c call) := by
  refine ⟨h.sound_update rfl hsound fun d _ => ?_, h.live_known, h.bound_known, h.made_known,
    h.made_own⟩
  exact ⟨rfl, fun _ hm => hm, fun _ _ hm => hm, fun _ hm => hm, fun _ hm => hm,
    fun _ _ hlive => ⟨rfl, hlive⟩, fun _ _ hb => hb⟩

theorem EnsureInv.create (h : EnsureInv S) {seen : Cell LobbyMatchBinding} {matchId : MatchId}
    (hcall : S.call c = .creating seen) (hfresh : matchId ∉ S.known) :
    EnsureInv { S with
      known := matchId :: S.known
      live := matchId :: S.live
      call := Function.update S.call c (.binding seen matchId)
      made := Function.update S.made c (some matchId) } := by
  have hsound := h.calls c
  rw [hcall] at hsound
  have hdead : ∀ old ∈ S.known, old ∉ S.live → old ∉ matchId :: S.live := by
    intro old hold hnot hmem
    rcases List.mem_cons.mp hmem with rfl | hmem
    · exact hfresh hold
    · exact hnot hmem
  have hnew : ∀ d own, Function.update S.made c (some matchId) d = some own →
      (d = c ∧ own = matchId) ∨ S.made d = some own := by
    intro d own hown
    by_cases hd : d = c
    · subst hd
      rw [Function.update_self] at hown
      exact .inl ⟨rfl, (Option.some.inj hown).symm⟩
    · rw [Function.update_of_ne hd] at hown
      exact .inr hown
  refine ⟨h.sound_update rfl ⟨⟨Function.update_self .., ?_⟩, hsound.2.1, ?_⟩ fun d hd => ?_,
    ?_, ?_, ?_, ?_⟩
  · exact fun hbound => hfresh (h.bound_known matchId hbound)
  · intro old hbound
    obtain ⟨hknown, hnot⟩ := hsound.2.2 old hbound
    exact ⟨List.mem_cons_of_mem _ hknown, hdead old hknown hnot⟩
  · exact ⟨Function.update_of_ne hd .., fun _ hm => List.mem_cons_of_mem _ hm, hdead, fun _ hm => hm,
      fun _ hm => hm, fun _ _ hlive => ⟨rfl, List.mem_cons_of_mem _ hlive⟩, fun _ _ hb => hb⟩
  · intro m hm
    rcases List.mem_cons.mp hm with rfl | hm
    · exact List.mem_cons_self
    · exact List.mem_cons_of_mem _ (h.live_known m hm)
  · exact fun m hm => List.mem_cons_of_mem _ (h.bound_known m hm)
  · intro d own hown
    rcases hnew d own hown with ⟨-, rfl⟩ | hown
    · exact List.mem_cons_self
    · exact List.mem_cons_of_mem _ (h.made_known d own hown)
  · intro d e own hd he
    rcases hnew d own hd with ⟨rfl, rfl⟩ | hd' <;> rcases hnew e _ he with ⟨rfl, hown⟩ | he'
    · rfl
    · exact absurd (h.made_known e _ he') hfresh
    · exact absurd (hown ▸ h.made_known d _ hd') hfresh
    · exact h.made_own d e own hd' he'

/-- **A write that succeeds replaces no live match**: it meets the object that its call read. -/
theorem EnsureInv.write (h : EnsureInv S) {seen : Cell LobbyMatchBinding} {candidateId : MatchId}
    {object : Versioned LobbyMatchBinding} (hcall : S.call c = .binding seen candidateId)
    (hwrite : S.storage.write seen.expected (some candidateId) = some object)
    (hlive : candidateId ∈ S.live) :
    EnsureInv { S with
      storage := some object
      call := Function.update S.call c (.returned candidateId) } := by
  have hsound := h.calls c
  rw [hcall] at hsound
  obtain ⟨⟨hmade, hunbound⟩, hseen, hdead⟩ := hsound
  have hbound : boundMatch (some object) = some candidateId := (Cell.writes_write hwrite).1
  have hsame : seen = S.storage := hseen.eq_of_write hwrite
  refine ⟨h.sound_update rfl ⟨hbound, hlive, fun own hown hne => ?_⟩ fun d hd => ?_, h.live_known,
    ?_, h.made_known, h.made_own⟩
  · exact absurd (Option.some.inj (hown.symm.trans hmade)) hne
  · refine ⟨rfl, fun _ hm => hm, fun _ _ hm => hm, fun _ hm => hm, fun _ hs => hs.write hwrite,
      fun m hb hm => ?_, fun own hown _ hb => ?_⟩
    · exact absurd hm (hdead m (hsame ▸ hb)).2
    · obtain rfl := Option.some.inj (hbound.symm.trans hb)
      exact hd (h.made_own d c _ hown hmade)
  · intro m hm
    obtain rfl := Option.some.inj (hbound.symm.trans hm)
    exact h.live_known _ hlive

theorem EnsureInv.signal (h : EnsureInv S) {candidateId : MatchId}
    (hcall : S.call c = .losing candidateId) (delivered : Bool) :
    EnsureInv { S with
      live := if delivered then S.live.filter (· ≠ candidateId) else S.live
      signalled := candidateId :: S.signalled
      call := Function.update S.call c (.rereading candidateId) } := by
  have hsound := h.calls c
  rw [hcall] at hsound
  have hsub : ∀ m ∈ (if delivered then S.live.filter (· ≠ candidateId) else S.live), m ∈ S.live := by
    intro m hm
    split at hm
    · exact (List.mem_filter.mp hm).1
    · exact hm
  have hkeep : ∀ m ∈ S.live, m ≠ candidateId →
      m ∈ (if delivered then S.live.filter (· ≠ candidateId) else S.live) := by
    intro m hm hne
    split
    · exact List.mem_filter.mpr ⟨hm, decide_eq_true hne⟩
    · exact hm
  refine ⟨h.sound_update rfl ⟨hsound, List.mem_cons_self⟩ fun d _ => ?_,
    fun m hm => h.live_known m (hsub m hm), h.bound_known, h.made_known, h.made_own⟩
  refine ⟨rfl, fun _ hm => hm, fun _ _ hnot hm => hnot (hsub _ hm),
    fun _ hm => List.mem_cons_of_mem _ hm, fun _ hs => hs, fun m hb hm => ⟨rfl, hkeep m hm ?_⟩,
    fun _ _ hb => hb⟩
  rintro rfl
  exact hsound.2 hb

omit [DecidableEq ι] in
theorem EnsureInv.die (h : EnsureInv S) {matchId : MatchId}
    (hne : boundMatch S.storage ≠ some matchId) :
    EnsureInv { S with live := S.live.filter (· ≠ matchId) } := by
  have hframe : ∀ d, EnsureFrame S { S with live := S.live.filter (· ≠ matchId) } d := by
    intro d
    refine ⟨rfl, fun _ hm => hm, fun _ _ hnot hm => hnot (List.mem_filter.mp hm).1, fun _ hm => hm,
      fun _ hs => hs, fun m hb hm => ⟨rfl, List.mem_filter.mpr ⟨hm, decide_eq_true ?_⟩⟩,
      fun _ _ hb => hb⟩
    rintro rfl
    exact hne hb
  exact ⟨fun d => (hframe d).sound (h.calls d),
    fun m hm => h.live_known m (List.mem_filter.mp hm).1, h.bound_known, h.made_known, h.made_own⟩

theorem EnsureInv.step {l : EnsureLabel ι} (h : EnsureInv S) (hstep : EnsureStep S l S') :
    EnsureInv S' := by
  obtain ⟨hexec, hdie, hnew⟩ := hstep
  cases l with
  | read c =>
    have hsound := h.calls c
    simp only [EnsureSys.exec] at hexec
    split at hexec
    · rename_i hcall
      obtain rfl := Option.some.inj hexec
      rw [hcall] at hsound
      exact h.set (afterRead_sound h hsound)
    · cases hexec
  | lookup c =>
    have hsound := h.calls c
    simp only [EnsureSys.exec] at hexec
    split at hexec
    · rename_i seen matchId hcall
      rw [hcall] at hsound
      obtain ⟨hmade, hseen, hcurrent⟩ := hsound
      by_cases hlive : matchId ∈ S.live
      · rw [if_pos hlive] at hexec
        obtain rfl := Option.some.inj hexec
        refine h.set ⟨hcurrent.bound hlive, hlive, fun own hown _ => ?_⟩
        rw [hmade] at hown
        cases hown
      · rw [if_neg hlive] at hexec
        obtain rfl := Option.some.inj hexec
        exact h.set ⟨hmade, hcurrent.stale hseen hlive⟩
    · cases hexec
  | create c matchId =>
    simp only [EnsureSys.exec] at hexec
    split at hexec
    · rename_i seen hcall
      by_cases hknown : matchId ∈ S.known
      · rw [if_pos hknown] at hexec
        cases hexec
      · rw [if_neg hknown] at hexec
        obtain rfl := Option.some.inj hexec
        exact h.create hcall hknown
    · cases hexec
  | write c =>
    have hsound := h.calls c
    simp only [EnsureSys.exec] at hexec
    split at hexec
    · rename_i seen candidateId hcall
      rw [hcall] at hsound
      split at hexec
      · obtain rfl := Option.some.inj hexec
        exact h.set hsound.1
      · rename_i object hwrite
        obtain rfl := Option.some.inj hexec
        obtain ⟨hvalue, hwrites⟩ := Cell.writes_write hwrite
        refine h.write hcall hwrite (hnew candidateId hvalue fun hsame => ?_)
        have hsame : some object = S.storage := hsame
        rw [hsame] at hwrites
        omega
    · cases hexec
  | fail c =>
    obtain ⟨call', hfail, rfl⟩ := Option.map_eq_some_iff.mp hexec
    exact h.set (afterFailure_sound (h.calls c) hfail)
  | signal c delivered =>
    simp only [EnsureSys.exec] at hexec
    split at hexec
    · rename_i candidateId hcall
      obtain rfl := Option.some.inj hexec
      exact h.signal hcall delivered
    · cases hexec
  | reread c =>
    have hsound := h.calls c
    simp only [EnsureSys.exec] at hexec
    split at hexec
    · rename_i candidateId hcall
      obtain rfl := Option.some.inj hexec
      rw [hcall] at hsound
      exact h.set (afterReread_sound h hsound.1.1 hsound.2)
    · cases hexec
  | lookupWinner c =>
    have hsound := h.calls c
    simp only [EnsureSys.exec] at hexec
    split at hexec
    · rename_i candidateId winner matchId hcall
      rw [hcall] at hsound
      obtain ⟨hmade, hsignalled, hcurrent⟩ := hsound
      have hown : ∀ own ∈ S.made c, own ∈ S.signalled := by
        intro own hown
        rw [hmade] at hown
        exact Option.some.inj hown ▸ hsignalled
      by_cases hlive : matchId ∈ S.live
      · rw [if_pos hlive] at hexec
        obtain rfl := Option.some.inj hexec
        exact h.set ⟨hcurrent.bound hlive, hlive, fun own hm _ => hown own hm⟩
      · rw [if_neg hlive] at hexec
        obtain rfl := Option.some.inj hexec
        exact h.set hown
    · cases hexec
  | die matchId =>
    obtain rfl := Option.some.inj hexec
    exact h.die (hdie matchId rfl)

end

/-! ### Runs -/

section

variable {ι : Type} [DecidableEq ι] {storage : Cell LobbyMatchBinding} {known live : List MatchId}

omit [DecidableEq ι] in
theorem ensureInv_start (hlive : ∀ matchId ∈ live, matchId ∈ known)
    (hbound : ∀ matchId ∈ boundMatch storage, matchId ∈ known) :
    EnsureInv (EnsureSys.start ι storage known live) := by
  refine ⟨fun _ => rfl, hlive, hbound, fun _ _ hmade => ?_, fun _ _ _ hmade => ?_⟩
  · cases hmade
  · cases hmade

/-- **Concurrent calls agree**: whatever the object bound before, live or dead, and however the calls
interleave, those that return have returned the one bound match, and it is live; every other match
that a finished call created was signalled to terminate. -/
theorem ensureLobbyMatch_agrees (hlive : ∀ matchId ∈ live, matchId ∈ known)
    (hbound : ∀ matchId ∈ boundMatch storage, matchId ∈ known)
    {ts : List (Transition (EnsureSys ι) (EnsureLabel ι))} {S : EnsureSys ι}
    (hrun : Run EnsureStep (.start ι storage known live) ts S) : EnsureAgreement S :=
  (hrun.invariant' (I := EnsureInv) (fun _ _ _ h hstep => h.step hstep)
    (ensureInv_start hlive hbound)).1.agreement

end

/-- The executable check of what `EnsureStep` asks beside the step. -/
def boundAlive (t : Transition (EnsureSys ℕ) (EnsureLabel ℕ)) : Bool :=
  (match t.label with
    | .die matchId => decide (boundMatch t.pre.storage ≠ some matchId)
    | _ => true) &&
  (boundMatch t.post.storage).all fun matchId =>
    decide (t.post.storage = t.pre.storage) || decide (matchId ∈ t.pre.live)

theorem ensureStep_of_boundAlive {t : Transition (EnsureSys ℕ) (EnsureLabel ℕ)}
    (hexec : t.pre.exec t.label = some t.post) (h : boundAlive t = true) :
    EnsureStep t.pre t.label t.post := by
  simp only [boundAlive, Bool.and_eq_true] at h
  obtain ⟨hdie, hnew⟩ := h
  refine ⟨hexec, fun matchId hlabel => ?_, fun matchId hbound hne => ?_⟩
  · rw [hlabel] at hdie
    exact of_decide_eq_true hdie
  · rw [hbound, Option.all_some, Bool.or_eq_true] at hnew
    rcases hnew with hsame | hlive
    · exact absurd (of_decide_eq_true hsame) hne
    · exact of_decide_eq_true hlive

/-- The object binds a dead match.  Two calls read it and create a match each; the second one loses,
and a third one finds the winner. -/
theorem ensureLobbyMatch_agrees_race :
    ∃ ts S, Run EnsureStep (.start ℕ (some ⟨some "m0", 7⟩) ["m0"] []) ts S ∧
      (∀ c ∈ [0, 1, 2], S.call c = .returned "m1") ∧ S.signalled = ["m2"] ∧ EnsureAgreement S := by
  have hfollow : (replay EnsureSys.exec (.start ℕ (some ⟨some "m0", 7⟩) ["m0"] [])
      [.read 0, .read 1, .lookup 1, .lookup 0, .create 0 "m1", .create 1 "m2", .write 0, .write 1,
        .signal 1 true, .reread 1, .read 2, .lookup 2, .lookupWinner 1]).any
        (fun r => (∀ c ∈ [0, 1, 2], r.2.call c = .returned "m1") ∧ r.2.signalled = ["m2"] ∧
          ∀ t ∈ r.1, boundAlive t = true) = true := by decide +kernel
  obtain ⟨⟨ts, S⟩, hreplay, hchecks⟩ := (Option.any_eq_true _ _).mp hfollow
  obtain ⟨hcalls, hsignalled, halive⟩ := of_decide_eq_true hchecks
  have hrun : Run (fun S l S' => S.exec l = some S') _ ts S :=
    (replay_run (fun _ _ _ hexec => hexec) hreplay).1
  have hrun : Run EnsureStep _ ts S :=
    hrun.of_steps fun t ht => ensureStep_of_boundAlive (hrun.step_of_mem t ht) (halive t ht)
  refine ⟨ts, S, hrun, hcalls, hsignalled, ensureLobbyMatch_agrees (fun _ hm => ?_) (fun _ hm => ?_) hrun⟩
  · cases hm
  · obtain rfl := Option.some.inj hm
    exact List.mem_singleton_self _

end HiveChameleon.Nakama
