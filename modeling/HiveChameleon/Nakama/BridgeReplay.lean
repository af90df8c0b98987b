import HiveChameleon.Nakama.SessionBridge

/-!
# Nakama.BridgeReplay — a nonce is accepted once, unless its call writes late

An accepted nonce is kept in its session's object until a call prunes it at a captured time at or past
its expiry.  A call writes no nonce that is kept; so the second acceptance of a nonce needs a call that
writes after another one, with a captured time past the first one's expiry, has written.
-/

namespace HiveChameleon.Nakama

open Lib

/-! ### The conditions -/

/-- What identifies a nonce. -/
def Acceptance.nonce (a : Acceptance) : String × String :=
  (a.principal.authSessionId, a.principal.nonceKey)

/-- Assertions of one session with one nonce expire together: each assertion has a nonce of its
own. -/
def NonceDetermines (Issued : BridgePrincipal → Prop) : Prop :=
  ∀ p p', Issued p → Issued p' → p.authSessionId = p'.authSessionId → p.nonceKey = p'.nonceKey →
    p.expiresAt = p'.expiresAt

section

variable {ι : Type} [DecidableEq ι]

/-- An assertion that verifies was issued. -/
def PresentsIssued (v : BridgeVerifier) (Issued : BridgePrincipal → Prop)
    (t : Transition (BridgeSys ι) (BridgeLabel ι)) : Prop :=
  ∀ c id p, t.label = .verify c (some id) → v.verify t.pre.clock id = some p → Issued p

/-- **Outside the defect**: a call that holds the current object of its session does not come to write
after another call has written there whose captured time is at or past its assertion's expiry. -/
def WritesInTime (t : Transition (BridgeSys ι) (BridgeLabel ι)) : Prop :=
  ∀ c p now retries, t.label = .write c →
    t.pre.call c = .updating p now retries (t.pre.storage p.authSessionId) →
      ∀ a ∈ t.pre.accepted, a.principal.authSessionId = p.authSessionId → a.now < p.expiresAt

end

/-! ### The update function -/

/-- The nonces of a session's object. -/
def noncesOf : Cell (Option BridgeReplayState) → List BridgeNonce
  | some ⟨some nonces, _⟩ => nonces.rows
  | _ => []

theorem bridgeReplayState_eq_ok {authSessionId : String} {seen : Cell (Option BridgeReplayState)}
    {nonces : BridgeReplayState} {version : Option ℕ}
    (h : bridgeReplayState (bridgeReplayObjects authSessionId seen) authSessionId =
      .ok (nonces, version)) : nonces.rows = noncesOf seen ∧ version = seen.expected := by
  rcases seen with _ | ⟨value, n⟩
  · obtain ⟨rfl, rfl⟩ := Prod.mk.inj (Except.ok.inj h)
    exact ⟨rfl, rfl⟩
  · simp only [bridgeReplayObjects, Option.toList_some, List.map_cons, List.map_nil,
      bridgeReplayState, ne_eq, not_true_eq_false, or_self, if_false] at h
    cases value with
    | none => cases h
    | some found =>
      obtain ⟨rfl, rfl⟩ := Prod.mk.inj (Except.ok.inj h)
      exact ⟨rfl, rfl⟩

theorem bridgeReplayWrite_eq_ok {authSessionId nonceKey : String} {expiresAt now : ℤ}
    {seen : Cell (Option BridgeReplayState)} {w : BridgeReplayWrite}
    (h : bridgeReplayWrite (bridgeReplayObjects authSessionId seen) authSessionId nonceKey expiresAt now
      = .ok w) :
    w.key = authSessionId ∧ w.version = seen.expected ∧
      (∀ nonce, nonce ∈ w.value ↔ nonce ∈ noncesOf seen ∧ now < nonce.expiresAt ∨
        nonce = ⟨nonceKey, expiresAt⟩) ∧
      ∀ nonce ∈ noncesOf seen, now < nonce.expiresAt → nonce.nonceKey ≠ nonceKey := by
  simp only [bridgeReplayWrite, bind_eq_ok, exists_unit, require_eq_ok, pure_eq_ok, Prod.exists] at h
  obtain ⟨nonces, version, hstate, -, -, table, htable, rfl⟩ := h
  obtain ⟨hrows, rfl⟩ := bridgeReplayState_eq_ok hstate
  have hmem : ∀ nonce, nonce ∈ pruneNonces now nonces ↔
      nonce ∈ noncesOf seen ∧ now < nonce.expiresAt := by
    intro nonce
    rw [pruneNonces, Table.mem_filter, Table.mem_def, hrows]
  refine ⟨rfl, rfl, fun nonce => ?_, fun nonce hnonce hlive => ?_⟩
  · rw [Table.mem_insert htable, hmem]
  · exact (Table.insert_eq_ok.mp htable).1 nonce ((hmem nonce).mpr ⟨hnonce, hlive⟩)

/-! ### What is remembered -/

section

variable {ι : Type} {v : BridgeVerifier} {Issued : BridgePrincipal → Prop} {S S' : BridgeSys ι}

/-- A call past its check is in time by the time it captured, and what it read was read. -/
def CallSound (Issued : BridgePrincipal → Prop) (storage : String → Cell (Option BridgeReplayState)) :
    BridgeCall → Prop
  | .verified p => Issued p
  | .consuming p now _ => Issued p ∧ now < p.expiresAt
  | .updating p now _ seen => Issued p ∧ now < p.expiresAt ∧ seen.SeenOf (storage p.authSessionId)
  | _ => True

/-- **An accepted nonce is kept until a write at or past its expiry prunes it**, and no nonce was
accepted twice. -/
structure Remembered (Issued : BridgePrincipal → Prop) (S : BridgeSys ι) : Prop where
  calls : ∀ c, CallSound Issued S.storage (S.call c)
  issued : ∀ a ∈ S.accepted, Issued a.principal
  kept : ∀ a ∈ S.accepted,
    ⟨a.principal.nonceKey, a.principal.expiresAt⟩ ∈ noncesOf (S.storage a.principal.authSessionId) ∨
      ∃ b ∈ S.accepted, b.principal.authSessionId = a.principal.authSessionId ∧
        a.principal.expiresAt ≤ b.now
  once : (S.accepted.map Acceptance.nonce).Nodup

theorem remembered_start (clock : ℤ) (storage : String → Cell (Option BridgeReplayState)) :
    Remembered Issued (.start ι clock storage) where
  calls _ := trivial
  issued _ h := absurd h List.not_mem_nil
  kept _ h := absurd h List.not_mem_nil
  once := List.nodup_nil

theorem CallSound.write {call : BridgeCall} {key : String} {expected : Option ℕ}
    {value : Option BridgeReplayState} {object : Versioned (Option BridgeReplayState)}
    (h : CallSound Issued S.storage call) (hwrite : (S.storage key).write expected value = some object) :
    CallSound Issued (Function.update S.storage key (some object)) call := by
  cases call with
  | updating p now retries seen =>
    obtain ⟨hissued, hlive, hseen⟩ := h
    refine ⟨hissued, hlive, ?_⟩
    by_cases hkey : p.authSessionId = key
    · rw [hkey, Function.update_self]
      exact (hkey ▸ hseen).write hwrite
    · rw [Function.update_of_ne hkey]
      exact hseen
  | verified p => exact h
  | consuming p now retries => exact h
  | ready => trivial
  | accepted request => trivial
  | refused e => trivial

variable [DecidableEq ι]

theorem Remembered.set {c : ι} {call : BridgeCall} (h : Remembered Issued S)
    (hcall : CallSound Issued S.storage call) : Remembered Issued (S.set c call) where
  calls d := by
    show CallSound Issued S.storage (Function.update S.call c call d)
    by_cases hd : d = c
    · rw [hd, Function.update_self]
      exact hcall
    · rw [Function.update_of_ne hd]
      exact h.calls d
  issued := h.issued
  kept := h.kept
  once := h.once

/-- **A write in time accepts a nonce for the first time.** -/
theorem Remembered.write {c : ι} {p : BridgePrincipal} {now : ℤ} {retries : ℕ}
    {seen : Cell (Option BridgeReplayState)} (hunique : NonceDetermines Issued)
    (h : Remembered Issued S) (hcall : S.call c = .updating p now retries seen)
    (htimely : seen = S.storage p.authSessionId → ∀ a ∈ S.accepted,
      a.principal.authSessionId = p.authSessionId → a.now < p.expiresAt) :
    Remembered Issued (S.consumeWrite c p now retries seen) := by
  have hsound := h.calls c
  rw [hcall] at hsound
  obtain ⟨hissued, hlive, hseen⟩ := hsound
  unfold BridgeSys.consumeWrite
  cases hupdate : bridgeReplayWrite (bridgeReplayObjects p.authSessionId seen) p.authSessionId
      p.nonceKey p.expiresAt now with
  | error e => exact h.set trivial
  | ok w =>
    obtain ⟨hkey, hversion, hmem, hfresh⟩ := bridgeReplayWrite_eq_ok hupdate
    dsimp only
    cases hwrite : (S.storage w.key).write w.version (some w.value) with
    | none =>
      cases retries with
      | zero => exact h.set trivial
      | succ retries => exact h.set ⟨hissued, hlive⟩
    | some object =>
      -- the object is the one that was read, and now holds the nonces of the write
      have hsame : seen = S.storage p.authSessionId := by
        rw [hkey, hversion] at hwrite
        exact hseen.eq_of_write hwrite
      have hvalue : object.value = some w.value := (Cell.writes_write hwrite).1
      have hnonces : noncesOf (some object) = w.value.rows := by
        rw [show object = ⟨some w.value, object.version⟩ from by rw [← hvalue]]
        rfl
      have hnew : ∀ a ∈ S.accepted, a.nonce ≠ (p.authSessionId, p.nonceKey) := by
        intro a ha heq
        obtain ⟨hsession, hnonce⟩ := Prod.mk.inj heq
        have hexpiry := hunique _ _ (h.issued a ha) hissued hsession hnonce
        rcases h.kept a ha with hstored | ⟨b, hb, hbsession, hpast⟩
        · rw [hsession, ← hsame, hexpiry] at hstored
          exact hfresh _ hstored hlive hnonce
        · have hbefore := htimely hsame b hb (hbsession.trans hsession)
          omega
      refine ⟨fun d => ?_, fun a ha => ?_, fun a ha => ?_, ?_⟩
      · show CallSound Issued (Function.update S.storage w.key (some object))
          (Function.update S.call c _ d)
        by_cases hd : d = c
        · rw [hd, Function.update_self]
          trivial
        · rw [Function.update_of_ne hd]
          exact (h.calls d).write hwrite
      · rcases List.mem_append.mp ha with ha | ha
        · exact h.issued a ha
        · obtain rfl := List.mem_singleton.mp ha
          exact hissued
      · show _ ∈ noncesOf (Function.update S.storage w.key (some object) _) ∨ _
        rw [hkey]
        rcases List.mem_append.mp ha with ha | ha
        · by_cases hsession : a.principal.authSessionId = p.authSessionId
          · rcases h.kept a ha with hstored | ⟨b, hb, hrest⟩
            · by_cases hexpired : a.principal.expiresAt ≤ now
              · exact .inr ⟨⟨p, now⟩, by simp, hsession.symm, hexpired⟩
              · refine .inl ?_
                rw [hsession, Function.update_self, hnonces]
                rw [hsession, ← hsame] at hstored
                exact (hmem _).mpr (.inl ⟨hstored, Int.not_le.mp hexpired⟩)
            · exact .inr ⟨b, List.mem_append_left _ hb, hrest⟩
          · rw [Function.update_of_ne hsession]
            rcases h.kept a ha with hstored | ⟨b, hb, hrest⟩
            · exact .inl hstored
            · exact .inr ⟨b, List.mem_append_left _ hb, hrest⟩
        · obtain rfl := List.mem_singleton.mp ha
          refine .inl ?_
          rw [Function.update_self, hnonces]
          exact (hmem _).mpr (.inr rfl)
      · rw [List.map_append, List.nodup_append]
        refine ⟨h.once, by simp, fun x hx y hy => ?_⟩
        obtain ⟨a, ha, rfl⟩ := List.mem_map.mp hx
        obtain rfl : y = (p.authSessionId, p.nonceKey) := by simpa [Acceptance.nonce] using hy
        exact hnew a ha

theorem remembered_step {l : BridgeLabel ι} (hunique : NonceDetermines Issued)
    (h : Remembered Issued S) (hissued : PresentsIssued v Issued ⟨S, l, S'⟩)
    (htimely : WritesInTime ⟨S, l, S'⟩) (hl : BridgeStep v S l S') : Remembered Issued S' := by
  unfold BridgeStep at hl
  cases l with
  | tick time =>
    simp only [BridgeSys.exec] at hl
    split at hl
    · obtain rfl := Option.some.inj hl
      exact ⟨h.calls, h.issued, h.kept, h.once⟩
    · cases hl
  | verify c accountId =>
    simp only [BridgeSys.exec] at hl
    split at hl
    · obtain rfl := Option.some.inj hl
      exact h.set trivial
    · split at hl
      · obtain rfl := Option.some.inj hl
        exact h.set trivial
      · rename_i id _ _ p hverify
        obtain rfl := Option.some.inj hl
        exact h.set (hissued c id p rfl hverify)
    · cases hl
  | check c =>
    have hsound := h.calls c
    simp only [BridgeSys.exec] at hl
    split at hl
    · rename_i p hcall
      rw [hcall] at hsound
      split at hl
      · obtain rfl := Option.some.inj hl
        exact h.set trivial
      · rename_i hlive
        obtain rfl := Option.some.inj hl
        exact h.set ⟨hsound, Int.not_le.mp hlive⟩
    · cases hl
  | read c =>
    have hsound := h.calls c
    simp only [BridgeSys.exec] at hl
    split at hl
    · rename_i p now retries hcall
      rw [hcall] at hsound
      obtain rfl := Option.some.inj hl
      exact h.set ⟨hsound.1, hsound.2, .rfl⟩
    · cases hl
  | write c =>
    simp only [BridgeSys.exec] at hl
    split at hl
    · rename_i p now retries seen hcall
      obtain rfl := Option.some.inj hl
      refine h.write hunique hcall fun hseen => ?_
      exact htimely c p now retries rfl (hseen ▸ hcall)
    · cases hl
  | fail c =>
    simp only [BridgeSys.exec] at hl
    split at hl
    · obtain rfl := Option.some.inj hl
      exact h.set trivial
    · obtain rfl := Option.some.inj hl
      exact h.set trivial
    · cases hl

/-- **Each nonce is accepted at most once**, in every run in which no call writes late. -/
theorem nonce_accepted_once {clock : ℤ} {storage : String → Cell (Option BridgeReplayState)}
    {ts : List (Transition (BridgeSys ι) (BridgeLabel ι))} (hunique : NonceDetermines Issued)
    (h : Run (BridgeStep v) (.start ι clock storage) ts S)
    (hissued : ∀ t ∈ ts, PresentsIssued v Issued t) (htimely : ∀ t ∈ ts, WritesInTime t) :
    (S.accepted.map Acceptance.nonce).Nodup :=
  (h.invariant (I := Remembered Issued)
    (G := fun t => PresentsIssued v Issued t ∧ WritesInTime t)
    (fun _ _ _ hm hG hl => remembered_step hunique hm hG.1 hG.2 hl) (remembered_start clock storage)
    fun t ht => ⟨hissued t ht, htimely t ht⟩).1.once

end

/-! ### Two calls with one assertion -/

/-- Decoders for a session, two nonces and a signature. -/
def bridgeVerifier : BridgeVerifier where
  rawUrlDecode text :=
    if text = "session" then
      some [1, 152, 10, 188, 222, 240, 112, 188, 141, 239, 1, 35, 69, 103, 137, 171]
    else if text = "first" then some (List.replicate 16 1)
    else if text = "second" then some (List.replicate 16 2)
    else if text = "signature" then some (List.replicate 32 0)
    else none
  rawUrlEncode bytes :=
    if bytes = List.replicate 16 1 then "first"
    else if bytes = List.replicate 16 2 then "second"
    else if bytes = List.replicate 32 0 then "signature"
    else "session"
  parseInt36 text := if text = "1o" then some 60 else if text = "2s" then some 100 else none
  hmacSha256 _ := List.replicate 32 0

def firstAssertion : String := "v1.session.session.1o.first.signature"

def secondAssertion : String := "v1.session.session.2s.second.signature"

/-- The expiries of the two nonces. -/
def issuedBridge (p : BridgePrincipal) : Prop :=
  p.expiresAt = if p.nonceKey = "01010101010101010101010101010101" then 60 else 100

instance (p : BridgePrincipal) : Decidable (issuedBridge p) := inferInstanceAs (Decidable (_ = _))

theorem issuedBridge_determines : NonceDetermines issuedBridge := by
  intro p p' hp hp' _ hnonce
  rw [hp, hp', hnonce]

/-- Every assertion that verifies is one of the two. -/
def presentsIssued (t : Transition (BridgeSys ℕ) (BridgeLabel ℕ)) : Bool :=
  match t.label with
  | .verify _ (some id) => (bridgeVerifier.verify t.pre.clock id).all fun p => issuedBridge p
  | _ => true

theorem presentsIssued_sound {t : Transition (BridgeSys ℕ) (BridgeLabel ℕ)}
    (h : presentsIssued t = true) : PresentsIssued bridgeVerifier issuedBridge t := by
  intro c id p hlabel hverify
  simp only [presentsIssued, hlabel, hverify, Option.all_some, decide_eq_true_eq] at h
  exact h

/-- No write is late, whatever its call has read. -/
def writesInTime (t : Transition (BridgeSys ℕ) (BridgeLabel ℕ)) : Bool :=
  match t.label with
  | .write c =>
    match t.pre.call c with
    | .updating p _ _ _ => t.pre.accepted.all fun a => a.now < p.expiresAt
    | _ => true
  | _ => true

theorem writesInTime_sound {t : Transition (BridgeSys ℕ) (BridgeLabel ℕ)}
    (h : writesInTime t = true) : WritesInTime t := by
  intro c p now retries hlabel hcall a ha _
  simp only [writesInTime, hlabel, hcall, List.all_eq_true, decide_eq_true_eq] at h
  exact h a ha

def followBridge (ls : List (BridgeLabel ℕ)) :
    Option (List (Transition (BridgeSys ℕ) (BridgeLabel ℕ)) × BridgeSys ℕ) :=
  replay (BridgeSys.exec bridgeVerifier) (.start ℕ 0 fun _ => none) ls

theorem followBridge_run {ls : List (BridgeLabel ℕ)}
    {ts : List (Transition (BridgeSys ℕ) (BridgeLabel ℕ))} {S : BridgeSys ℕ}
    (h : followBridge ls = some (ts, S)) :
    Run (BridgeStep bridgeVerifier) (.start ℕ 0 fun _ => none) ts S :=
  (replay_run (fun _ _ _ hexec => hexec) h).1

/-- Two calls bring one assertion and read before either writes: one is accepted, the other meets the
version conflict, reads again and is refused. -/
theorem nonce_accepted_once_race :
    ∃ ts S, Run (BridgeStep bridgeVerifier) (.start ℕ 0 fun _ => none) ts S ∧
      S.accepted.length = 1 ∧ (S.accepted.map Acceptance.nonce).Nodup := by
  have hfollow : (followBridge [.verify 0 (some firstAssertion), .verify 1 (some firstAssertion),
      .check 0, .check 1, .read 0, .read 1, .write 1, .write 0, .tick 5, .read 0, .write 0]).any
        (fun r => r.2.accepted.length = 1 ∧ ∀ t ∈ r.1, presentsIssued t = true ∧
          writesInTime t = true) = true := by decide +kernel
  obtain ⟨⟨ts, S⟩, hrun, hchecks⟩ := (Option.any_eq_true _ _).mp hfollow
  obtain ⟨hlength, hall⟩ := of_decide_eq_true hchecks
  have hrun := followBridge_run hrun
  exact ⟨ts, S, hrun, hlength, nonce_accepted_once issuedBridge_determines hrun
    (fun t ht => presentsIssued_sound (hall t ht).1) fun t ht => writesInTime_sound (hall t ht).2⟩

/-- A call captures the time 0 and stops; another accepts the same assertion; at its expiry a third
call prunes the nonce; then the first one writes and is accepted. -/
theorem nonce_accepted_twice :
    ∃ ts S, Run (BridgeStep bridgeVerifier) (.start ℕ 0 fun _ => none) ts S ∧
      (∀ t ∈ ts, PresentsIssued bridgeVerifier issuedBridge t) ∧
        ¬ (S.accepted.map Acceptance.nonce).Nodup := by
  have hfollow : (followBridge [.verify 0 (some firstAssertion), .check 0,
      .verify 1 (some firstAssertion), .check 1, .read 1, .write 1, .tick 60,
      .verify 2 (some secondAssertion), .check 2, .read 2, .write 2, .read 0, .write 0]).any
        (fun r => (∀ t ∈ r.1, presentsIssued t = true) ∧
          ¬ (r.2.accepted.map Acceptance.nonce).Nodup) = true := by decide +kernel
  obtain ⟨⟨ts, S⟩, hrun, hchecks⟩ := (Option.any_eq_true _ _).mp hfollow
  obtain ⟨hall, htwice⟩ := of_decide_eq_true hchecks
  exact ⟨ts, S, followBridge_run hrun, fun t ht => presentsIssued_sound (hall t ht), htwice⟩

end HiveChameleon.Nakama
