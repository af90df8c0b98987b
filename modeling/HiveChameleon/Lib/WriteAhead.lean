import Mathlib.Data.List.Nodup
import Mathlib.Logic.Function.Basic

/-!
# Lib.WriteAhead — an effect that is recorded before it is invoked

A process records an entry under a new id and a new key, invokes an effect once for it, hears that the
effect took place, and marks the entry as done; when something raises on the way it marks the entry as
failed.  A mark may raise and be committed all the same.  Nothing here knows which effect is invoked.
-/

namespace HiveChameleon.Lib

inductive EntryState where
  | pending | done | failed
deriving DecidableEq, Repr

/-- Where the attempt of a process stands. -/
inductive AttemptStage (ι κ : Type) where
  | outside
  | recorded (id : ι) (key : κ)
  | invoked (id : ι)
  | reported (id : ι)
  | failing (id : ι)

/-- The entries, the processes, and what happened: the entries that attempts made, the effects invoked,
the ones reported as done, and the entries whose mark as done raised. -/
structure WriteAhead (π ι κ : Type) where
  entry : ι → Option (κ × EntryState)
  stage : π → AttemptStage ι κ
  made : List ι
  invoked : List (ι × κ)
  reported : List ι
  unmarked : List ι

namespace WriteAhead

variable {π ι κ : Type}

/-- The entry that an attempt works on. -/
def held : AttemptStage ι κ → Option ι
  | .outside => none
  | .recorded id _ => some id
  | .invoked id => some id
  | .reported id => some id
  | .failing id => some id

section

variable [DecidableEq π] [DecidableEq ι]

def move (A : WriteAhead π ι κ) (p : π) (stage : AttemptStage ι κ) : WriteAhead π ι κ :=
  { A with stage := Function.update A.stage p stage }

def put (A : WriteAhead π ι κ) (id : ι) (key : κ) (state : EntryState) : WriteAhead π ι κ :=
  { A with entry := Function.update A.entry id (some (key, state)) }

/-- The id and the key are new. -/
def Fresh (A : WriteAhead π ι κ) (id : ι) (key : κ) : Prop :=
  A.entry id = none ∧ ∀ other e, A.entry other = some e → e.1 ≠ key

/-- One step.  An attempt is not marked as failed when its mark as done raised. -/
inductive Step : WriteAhead π ι κ → WriteAhead π ι κ → Prop where
  | insert {A : WriteAhead π ι κ} {id : ι} {key : κ} {state : EntryState} (hfresh : A.Fresh id key) :
      Step A (A.put id key state)
  | record {A : WriteAhead π ι κ} {p : π} {id : ι} {key : κ} {stage : AttemptStage ι κ}
      (hfresh : A.Fresh id key) (hstage : stage = .recorded id key ∨ stage = .outside) :
      Step A ({ A.put id key .pending with made := A.made ++ [id] }.move p stage)
  | invoke {A : WriteAhead π ι κ} {p : π} {id : ι} {key : κ} {stage : AttemptStage ι κ}
      (hat : A.stage p = .recorded id key) (hstage : stage = .invoked id ∨ stage = .failing id) :
      Step A ({ A with invoked := A.invoked ++ [(id, key)] }.move p stage)
  | report {A : WriteAhead π ι κ} {p : π} {id : ι} (hat : A.stage p = .invoked id) :
      Step A ({ A with reported := A.reported ++ [id] }.move p (.reported id))
  | raise {A : WriteAhead π ι κ} {p : π} {id : ι} (hat : A.stage p = .invoked id) :
      Step A (A.move p (.failing id))
  | unmarked {A : WriteAhead π ι κ} {p : π} {id : ι} (hat : A.stage p = .reported id) :
      Step A ({ A with unmarked := A.unmarked ++ [id] }.move p (.failing id))
  | markDone {A : WriteAhead π ι κ} {p : π} {id : ι} {key : κ} {state : EntryState}
      (hat : A.stage p = .reported id) (hentry : A.entry id = some (key, state)) :
      Step A ((A.put id key .done).move p .outside)
  | markLost {A : WriteAhead π ι κ} {p : π} {id : ι} {key : κ} {state : EntryState}
      (hat : A.stage p = .reported id) (hentry : A.entry id = some (key, state)) :
      Step A ({ A.put id key .done with unmarked := A.unmarked ++ [id] }.move p (.failing id))
  | markFailed {A : WriteAhead π ι κ} {p : π} {id : ι} {key : κ} {state : EntryState}
      (hat : A.stage p = .failing id) (hentry : A.entry id = some (key, state))
      (hguard : id ∉ A.unmarked) : Step A ((A.put id key .failed).move p .outside)
  | drop {A : WriteAhead π ι κ} {p : π} : Step A (A.move p .outside)

end

/-- What an attempt knows of its entry. -/
def Sound (A : WriteAhead π ι κ) : AttemptStage ι κ → Prop
  | .outside => True
  | .recorded id key => id ∈ A.made ∧ A.entry id = some (key, .pending) ∧
    (∀ called, (id, called) ∉ A.invoked) ∧ id ∉ A.reported
  | .invoked id => id ∈ A.made ∧ (∃ key, A.entry id = some (key, .pending)) ∧ id ∉ A.reported
  | .reported id => id ∈ A.made ∧ id ∈ A.reported
  | .failing id => id ∈ A.made ∧ (id ∈ A.reported → id ∈ A.unmarked)

/-- What holds of the entry with this id. -/
structure Truthful (A : WriteAhead π ι κ) (id : ι) : Prop where
  entry : id ∈ A.made → ∃ e, A.entry id = some e
  called : ∀ key, (id, key) ∈ A.invoked → ∃ state, A.entry id = some (key, state)
  made : id ∈ A.reported → id ∈ A.made
  failed : ∀ key, A.entry id = some (key, .failed) → id ∈ A.made → id ∉ A.reported
  done : ∀ key, A.entry id = some (key, .done) → id ∈ A.made → id ∈ A.reported

structure Inv (A : WriteAhead π ι κ) : Prop where
  sound : ∀ p, Sound A (A.stage p)
  own : ∀ p q id, held (A.stage p) = some id → held (A.stage q) = some id → p = q
  truthful : ∀ id, Truthful A id
  keys : ∀ id other e e', A.entry id = some e → A.entry other = some e' → e.1 = e'.1 → id = other
  once : (A.invoked.map Prod.fst).Nodup

/-- Nothing changes of the entries with other ids. -/
structure Touches (id : ι) (A A' : WriteAhead π ι κ) : Prop where
  entry : ∀ other, other ≠ id → A'.entry other = A.entry other
  made : ∀ other, other ≠ id → (other ∈ A'.made ↔ other ∈ A.made)
  invoked : ∀ other, other ≠ id → ∀ key, (other, key) ∈ A'.invoked ↔ (other, key) ∈ A.invoked
  reported : ∀ other, other ≠ id → (other ∈ A'.reported ↔ other ∈ A.reported)
  unmarked : ∀ other, other ∈ A.unmarked → other ∈ A'.unmarked

section

variable {A A' : WriteAhead π ι κ} {p : π} {id : ι}

theorem Sound.made {stage : AttemptStage ι κ} (h : Sound A stage) (hheld : held stage = some id) :
    id ∈ A.made := by
  cases stage with
  | outside => cases hheld
  | recorded | invoked | reported | failing =>
    obtain rfl := Option.some.inj hheld
    exact h.1

theorem Touches.sound {stage : AttemptStage ι κ} (ht : Touches id A A') (h : Sound A stage)
    (hne : held stage ≠ some id) : Sound A' stage := by
  have hother : ∀ other, held stage = some other → other ≠ id := by
    rintro other hheld rfl
    exact hne hheld
  cases stage with
  | outside => trivial
  | recorded other key =>
    obtain ⟨hmade, hentry, hcalled, hreported⟩ := h
    have hne := hother other rfl
    refine ⟨(ht.made other hne).mpr hmade, (ht.entry other hne).trans hentry, fun called => ?_, ?_⟩
    · rw [ht.invoked other hne]
      exact hcalled called
    · rw [ht.reported other hne]
      exact hreported
  | invoked other =>
    obtain ⟨hmade, ⟨key, hentry⟩, hreported⟩ := h
    have hne := hother other rfl
    refine ⟨(ht.made other hne).mpr hmade, ⟨key, (ht.entry other hne).trans hentry⟩, ?_⟩
    rw [ht.reported other hne]
    exact hreported
  | reported other =>
    have hne := hother other rfl
    exact ⟨(ht.made other hne).mpr h.1, (ht.reported other hne).mpr h.2⟩
  | failing other =>
    have hne := hother other rfl
    refine ⟨(ht.made other hne).mpr h.1, fun hreported => ht.unmarked other (h.2 ?_)⟩
    exact (ht.reported other hne).mp hreported

theorem Touches.truthful {other : ι} (ht : Touches id A A') (h : Truthful A other) (hne : other ≠ id) :
    Truthful A' other where
  entry hmade := by
    rw [ht.entry other hne]
    exact h.entry ((ht.made other hne).mp hmade)
  called key hcalled := by
    rw [ht.entry other hne]
    exact h.called key ((ht.invoked other hne key).mp hcalled)
  made hreported := (ht.made other hne).mpr (h.made ((ht.reported other hne).mp hreported))
  failed key hentry hmade := by
    rw [ht.entry other hne] at hentry
    rw [ht.reported other hne]
    exact h.failed key hentry ((ht.made other hne).mp hmade)
  done key hentry hmade := by
    rw [ht.entry other hne] at hentry
    rw [ht.reported other hne]
    exact h.done key hentry ((ht.made other hne).mp hmade)

/-- The keys stay distinct when the entry keeps its key or gets a new one. -/
theorem Touches.keys (ht : Touches id A A') (h : Inv A)
    (hkey : ∀ e, A'.entry id = some e → (∃ old, A.entry id = some old ∧ old.1 = e.1) ∨
      ∀ other old, A.entry other = some old → old.1 ≠ e.1) :
    ∀ other third e e', A'.entry other = some e → A'.entry third = some e' → e.1 = e'.1 →
      other = third := by
  have hmixed : ∀ other, other ≠ id → ∀ e e', A'.entry id = some e → A'.entry other = some e' →
      e.1 ≠ e'.1 := by
    intro other hne e e' he he' hsame
    rw [ht.entry other hne] at he'
    rcases hkey e he with ⟨old, hold, hkey⟩ | hnew
    · exact hne (h.keys other id e' old he' hold (hsame.symm.trans hkey.symm))
    · exact hnew other e' he' hsame.symm
  intro other third e e' he he' hsame
  by_cases hother : other = id
  · subst hother
    by_cases hthird : third = other
    · exact hthird.symm
    · exact absurd hsame (hmixed third hthird e e' he he')
  · by_cases hthird : third = id
    · subst hthird
      exact absurd hsame.symm (hmixed other hother e' e he' he)
    · rw [ht.entry other hother] at he
      rw [ht.entry third hthird] at he'
      exact h.keys other third e e' he he' hsame

theorem Truthful.congr (h : Truthful A id) (hentry : A'.entry = A.entry) (hmade : A'.made = A.made)
    (hinvoked : A'.invoked = A.invoked) (hreported : A'.reported = A.reported) : Truthful A' id := by
  refine ⟨?_, ?_, ?_, ?_, ?_⟩
  · rw [hentry, hmade]
    exact h.entry
  · rw [hentry, hinvoked]
    exact h.called
  · rw [hmade, hreported]
    exact h.made
  · rw [hentry, hmade, hreported]
    exact h.failed
  · rw [hentry, hmade, hreported]
    exact h.done

theorem Inv.not_made {key : κ} (h : Inv A) (hfresh : A.Fresh id key) : id ∉ A.made := by
  intro hmade
  obtain ⟨e, hentry⟩ := (h.truthful id).entry hmade
  rw [hfresh.1] at hentry
  cases hentry

end

section

variable [DecidableEq π] [DecidableEq ι] {A A' B : WriteAhead π ι κ} {p : π} {id : ι}
  {stage : AttemptStage ι κ}

omit [DecidableEq ι] in
/-- The invariant after a step of `p`, from what holds before its stage moves. -/
theorem Inv.moved (h : Inv A) (hstages : B.stage = A.stage)
    (hothers : ∀ q, q ≠ p → Sound B (A.stage q)) (hsound : Sound B stage)
    (hown : ∀ q, q ≠ p → ∀ other, held stage = some other → held (A.stage q) ≠ some other)
    (htruthful : ∀ other, Truthful B other)
    (hkeys : ∀ id other e e', B.entry id = some e → B.entry other = some e' → e.1 = e'.1 → id = other)
    (honce : (B.invoked.map Prod.fst).Nodup) : Inv (B.move p stage) where
  sound q := by
    show Sound B (Function.update B.stage p stage q)
    by_cases hq : q = p
    · rw [hq, Function.update_self]
      exact hsound
    · rw [Function.update_of_ne hq, hstages]
      exact hothers q hq
  own q r other hq hr := by
    change held (Function.update B.stage p stage q) = some other at hq
    change held (Function.update B.stage p stage r) = some other at hr
    rw [hstages] at hq hr
    by_cases hqp : q = p <;> by_cases hrp : r = p
    · rw [hqp, hrp]
    · rw [hqp, Function.update_self] at hq
      rw [Function.update_of_ne hrp] at hr
      exact absurd hr (hown r hrp other hq)
    · rw [hrp, Function.update_self] at hr
      rw [Function.update_of_ne hqp] at hq
      exact absurd hq (hown q hqp other hr)
    · rw [Function.update_of_ne hqp] at hq
      rw [Function.update_of_ne hrp] at hr
      exact h.own q r other hq hr
  truthful other := (htruthful other).congr rfl rfl rfl rfl
  keys := hkeys
  once := honce

/-- A step of `p` at its own entry. -/
theorem Inv.act (h : Inv A) (ht : Touches id A B) (hstages : B.stage = A.stage)
    (hfree : ∀ q, q ≠ p → held (A.stage q) ≠ some id)
    (hstage : ∀ other, held stage = some other → other = id) (hsound : Sound B stage)
    (htruthful : Truthful B id)
    (hkey : ∀ e, B.entry id = some e → (∃ old, A.entry id = some old ∧ old.1 = e.1) ∨
      ∀ other old, A.entry other = some old → old.1 ≠ e.1)
    (honce : (B.invoked.map Prod.fst).Nodup) : Inv (B.move p stage) := by
  refine h.moved hstages (fun q hq => ht.sound (h.sound q) (hfree q hq)) hsound
    (fun q hq other hother => ?_) (fun other => ?_) (ht.keys h hkey) honce
  · rw [hstage other hother]
    exact hfree q hq
  · by_cases hother : other = id
    · exact hother ▸ htruthful
    · exact ht.truthful (h.truthful other) hother

omit [DecidableEq π] [DecidableEq ι] in
theorem Inv.free (h : Inv A) (hp : held (A.stage p) = some id) :
    ∀ q, q ≠ p → held (A.stage q) ≠ some id :=
  fun q hq hheld => hq (h.own q p id hheld hp)

omit [DecidableEq π] in
theorem touches_put {key : κ} {state : EntryState} : Touches id A (A.put id key state) where
  entry _ hne := Function.update_of_ne hne _ _
  made _ _ := Iff.rfl
  invoked _ _ _ := Iff.rfl
  reported _ _ := Iff.rfl
  unmarked _ hother := hother

omit [DecidableEq π] in
theorem entry_put {key : κ} {state : EntryState} :
    (A.put id key state).entry id = some (key, state) := Function.update_self _ _ _

theorem mem_snoc_of_ne {α : Type} {l : List α} {a b : α} (hne : b ≠ a) : b ∈ l ++ [a] ↔ b ∈ l := by
  rw [List.mem_append, List.mem_singleton, or_iff_left hne]

omit [DecidableEq π] [DecidableEq ι] in
theorem Inv.fresh {key : κ} (h : Inv A) (hfresh : A.Fresh id key) :
    id ∉ A.made ∧ (∀ called, (id, called) ∉ A.invoked) ∧ id ∉ A.reported ∧
      ∀ q, held (A.stage q) ≠ some id := by
  have hmade : id ∉ A.made := h.not_made hfresh
  refine ⟨hmade, fun called hcalled => ?_, fun hreported => ?_, fun q hheld => ?_⟩
  · obtain ⟨state, hentry⟩ := (h.truthful id).called called hcalled
    rw [hfresh.1] at hentry
    cases hentry
  · exact hmade ((h.truthful id).made hreported)
  · exact hmade ((h.sound q).made hheld)

omit [DecidableEq π] in
theorem Inv.put_called {key called : κ} {state state' : EntryState} (h : Inv A)
    (hentry : A.entry id = some (key, state)) (hcalled : (id, called) ∈ A.invoked) :
    ∃ s, (A.put id key state').entry id = some (called, s) := by
  obtain ⟨s, hold⟩ := (h.truthful id).called called hcalled
  obtain ⟨rfl, -⟩ := Prod.mk.inj (Option.some.inj (hentry.symm.trans hold))
  exact ⟨state', entry_put⟩

omit [DecidableEq π] in
theorem put_key {key : κ} {state state' : EntryState} (hentry : A.entry id = some (key, state)) :
    ∀ e, (A.put id key state').entry id = some e →
      (∃ old, A.entry id = some old ∧ old.1 = e.1) ∨
        ∀ other old, A.entry other = some old → old.1 ≠ e.1 := by
  intro e he
  obtain rfl := Option.some.inj (entry_put.symm.trans he)
  exact .inl ⟨_, hentry, rfl⟩

omit [DecidableEq π] in
theorem put_fresh_key {key : κ} {state : EntryState} (hfresh : A.Fresh id key) :
    ∀ e, (A.put id key state).entry id = some e →
      (∃ old, A.entry id = some old ∧ old.1 = e.1) ∨
        ∀ other old, A.entry other = some old → old.1 ≠ e.1 := by
  intro e he
  obtain rfl := Option.some.inj (entry_put.symm.trans he)
  exact .inr hfresh.2

omit [DecidableEq π] in
theorem put_state {key key' : κ} {state state' : EntryState}
    (h : (A.put id key state).entry id = some (key', state')) : state = state' :=
  (Prod.mk.inj (Option.some.inj (entry_put.symm.trans h))).2

omit [DecidableEq π] [DecidableEq ι] in
theorem Touches.refl : Touches id A A where
  entry _ _ := rfl
  made _ _ := Iff.rfl
  invoked _ _ _ := Iff.rfl
  reported _ _ := Iff.rfl
  unmarked _ hother := hother

omit [DecidableEq π] in
theorem Inv.insert {key : κ} {state : EntryState} (h : Inv A) (hfresh : A.Fresh id key) :
    Inv (A.put id key state) := by
  obtain ⟨hmade, hcalled, -, hheld⟩ := h.fresh hfresh
  refine ⟨fun q => touches_put.sound (h.sound q) (hheld q), h.own, fun other => ?_,
    touches_put.keys h (put_fresh_key hfresh), h.once⟩
  by_cases hother : other = id
  · subst hother
    exact ⟨fun hmem => absurd hmem hmade, fun called hmem => absurd hmem (hcalled called),
      (h.truthful other).made, fun _ _ hmem => absurd hmem hmade, fun _ _ hmem => absurd hmem hmade⟩
  · exact touches_put.truthful (h.truthful other) hother

theorem Inv.record {key : κ} (h : Inv A) (hfresh : A.Fresh id key)
    (hstage : stage = .recorded id key ∨ stage = .outside) :
    Inv ({ A.put id key .pending with made := A.made ++ [id] }.move p stage) := by
  obtain ⟨-, hcalled, hreported, hheld⟩ := h.fresh hfresh
  have hmem : id ∈ A.made ++ [id] := List.mem_append_right _ (List.mem_singleton_self id)
  have ht : Touches id A { A.put id key .pending with made := A.made ++ [id] } :=
    { touches_put with made := fun _ hne => mem_snoc_of_ne hne }
  have hentry : Function.update A.entry id (some (key, .pending)) id = some (key, .pending) :=
    entry_put
  refine h.act ht rfl (fun q _ => hheld q) ?_ ?_ ?_ (put_fresh_key hfresh) h.once
  · rcases hstage with rfl | rfl
    · exact fun other hother => (Option.some.inj hother).symm
    · exact fun other hother => by cases hother
  · rcases hstage with rfl | rfl
    · exact ⟨hmem, hentry, hcalled, hreported⟩
    · exact trivial
  · refine ⟨fun _ => ⟨_, hentry⟩, fun called hmem => absurd hmem (hcalled called), fun _ => hmem,
      fun called hfailed => ?_, fun called hdone => ?_⟩
    · cases put_state hfailed
    · cases put_state hdone

theorem Inv.invoke {key : κ} (h : Inv A) (hat : A.stage p = .recorded id key)
    (hstage : stage = .invoked id ∨ stage = .failing id) :
    Inv ({ A with invoked := A.invoked ++ [(id, key)] }.move p stage) := by
  have hsound := h.sound p
  rw [hat] at hsound
  obtain ⟨hmade, hentry, hcalled, hreported⟩ := hsound
  have ht : Touches id A { A with invoked := A.invoked ++ [(id, key)] } :=
    { Touches.refl with
      invoked := fun other hne called => mem_snoc_of_ne fun heq => hne (Prod.mk.inj heq).1 }
  have htruthful := h.truthful id
  refine h.act ht rfl (h.free (by rw [hat]; rfl)) ?_ ?_ ⟨htruthful.entry, ?_, htruthful.made,
    htruthful.failed, htruthful.done⟩ (fun e he => .inl ⟨e, he, rfl⟩) ?_
  · rcases hstage with rfl | rfl <;> exact fun other hother => (Option.some.inj hother).symm
  · rcases hstage with rfl | rfl
    · exact ⟨hmade, ⟨key, hentry⟩, hreported⟩
    · exact ⟨hmade, fun hmem => absurd hmem hreported⟩
  · intro called hmem
    rcases List.mem_append.mp hmem with hmem | hmem
    · exact htruthful.called called hmem
    · obtain ⟨-, rfl⟩ := Prod.mk.inj (List.mem_singleton.mp hmem)
      exact ⟨_, hentry⟩
  · rw [List.map_append, List.nodup_append]
    refine ⟨h.once, List.nodup_singleton id, fun a ha b hb => ?_⟩
    obtain rfl := List.mem_singleton.mp hb
    rintro rfl
    obtain ⟨⟨other, called⟩, hmem, rfl⟩ := List.mem_map.mp ha
    exact hcalled called hmem

theorem Inv.report (h : Inv A) (hat : A.stage p = .invoked id) :
    Inv ({ A with reported := A.reported ++ [id] }.move p (.reported id)) := by
  have hsound := h.sound p
  rw [hat] at hsound
  obtain ⟨hmade, ⟨key, hentry⟩, -⟩ := hsound
  have hmem : id ∈ A.reported ++ [id] := List.mem_append_right _ (List.mem_singleton_self id)
  have ht : Touches id A { A with reported := A.reported ++ [id] } :=
    { Touches.refl with reported := fun _ hne => mem_snoc_of_ne hne }
  have htruthful := h.truthful id
  refine h.act ht rfl (h.free (by rw [hat]; rfl)) (fun other hother => (Option.some.inj hother).symm)
    ⟨hmade, hmem⟩ ⟨htruthful.entry, htruthful.called, fun _ => hmade, fun called hfailed => ?_,
      fun _ _ _ => hmem⟩ (fun e he => .inl ⟨e, he, rfl⟩) h.once
  cases hentry.symm.trans hfailed

theorem Inv.raise (h : Inv A) (hat : A.stage p = .invoked id) : Inv (A.move p (.failing id)) := by
  have hsound := h.sound p
  rw [hat] at hsound
  exact h.act .refl rfl (h.free (by rw [hat]; rfl)) (fun other hother => (Option.some.inj hother).symm)
    ⟨hsound.1, fun hmem => absurd hmem hsound.2.2⟩ (h.truthful id) (fun e he => .inl ⟨e, he, rfl⟩) h.once

theorem Inv.unmark (h : Inv A) (hat : A.stage p = .reported id) :
    Inv ({ A with unmarked := A.unmarked ++ [id] }.move p (.failing id)) := by
  have hsound := h.sound p
  rw [hat] at hsound
  have ht : Touches id A { A with unmarked := A.unmarked ++ [id] } :=
    { Touches.refl with unmarked := fun _ hmem => List.mem_append_left _ hmem }
  exact h.act ht rfl (h.free (by rw [hat]; rfl)) (fun other hother => (Option.some.inj hother).symm)
    ⟨hsound.1, fun _ => List.mem_append_right _ (List.mem_singleton_self id)⟩
    ((h.truthful id).congr rfl rfl rfl rfl) (fun e he => .inl ⟨e, he, rfl⟩) h.once

theorem Inv.markDone {key : κ} {state : EntryState} {unmarked : List ι} (h : Inv A)
    (hat : A.stage p = .reported id) (hentry : A.entry id = some (key, state))
    (hkept : ∀ other ∈ A.unmarked, other ∈ unmarked)
    (hstage : stage = .outside ∨ stage = .failing id ∧ id ∈ unmarked) :
    Inv ({ A.put id key .done with unmarked := unmarked }.move p stage) := by
  have hsound := h.sound p
  rw [hat] at hsound
  have ht : Touches id A { A.put id key .done with unmarked := unmarked } :=
    { touches_put with unmarked := hkept }
  refine h.act ht rfl (h.free (by rw [hat]; rfl)) ?_ ?_ ⟨fun _ => ⟨_, entry_put⟩,
    fun called hcalled => h.put_called hentry hcalled, fun _ => hsound.1, fun called hfailed => ?_,
    fun _ _ _ => hsound.2⟩ (put_key hentry) h.once
  · rcases hstage with rfl | ⟨rfl, -⟩
    · exact fun other hother => by cases hother
    · exact fun other hother => (Option.some.inj hother).symm
  · rcases hstage with rfl | ⟨rfl, hmem⟩
    · exact trivial
    · exact ⟨hsound.1, fun _ => hmem⟩
  · cases put_state hfailed

/-- **A mark as failed is right** unless a mark as done raised before it. -/
theorem Inv.markFailed {key : κ} {state : EntryState} (h : Inv A) (hat : A.stage p = .failing id)
    (hentry : A.entry id = some (key, state)) (hguard : id ∉ A.unmarked) :
    Inv ((A.put id key .failed).move p .outside) := by
  have hsound := h.sound p
  rw [hat] at hsound
  refine h.act touches_put rfl (h.free (by rw [hat]; rfl)) (fun other hother => by cases hother) trivial
    ⟨fun _ => ⟨_, entry_put⟩, fun called hcalled => h.put_called hentry hcalled, fun _ => hsound.1,
      fun _ _ _ hmem => hguard (hsound.2 hmem), fun called hdone => ?_⟩ (put_key hentry) h.once
  cases put_state hdone

theorem Inv.step (h : Inv A) (hstep : Step A A') : Inv A' := by
  cases hstep with
  | insert hfresh => exact h.insert hfresh
  | record hfresh hstage => exact h.record hfresh hstage
  | invoke hat hstage => exact h.invoke hat hstage
  | report hat => exact h.report hat
  | raise hat => exact h.raise hat
  | unmarked hat => exact h.unmark hat
  | markDone hat hentry => exact h.markDone hat hentry (fun _ hmem => hmem) (.inl rfl)
  | markLost hat hentry =>
    exact h.markDone hat hentry (fun _ hmem => List.mem_append_left _ hmem)
      (.inr ⟨rfl, List.mem_append_right _ (List.mem_singleton_self _)⟩)
  | markFailed hat hentry hguard => exact h.markFailed hat hentry hguard
  | drop =>
    exact h.moved rfl (fun q _ => h.sound q) trivial (fun _ _ _ hother => by cases hother) h.truthful
      h.keys h.once

omit [DecidableEq π] [DecidableEq ι] in
/-- **No key is invoked twice.** -/
theorem Inv.keys_once (h : Inv A) : (A.invoked.map Prod.snd).Nodup := by
  have hids : A.invoked.Nodup := List.Nodup.of_map _ h.once
  rw [List.nodup_map_iff_inj_on hids]
  rintro ⟨id, key⟩ hcall ⟨other, key'⟩ hcall' hkey
  obtain ⟨state, hentry⟩ := (h.truthful id).called key hcall
  obtain ⟨state', hentry'⟩ := (h.truthful other).called key' hcall'
  exact Prod.ext (h.keys id other _ _ hentry hentry' hkey) hkey

end

end WriteAhead

end HiveChameleon.Lib
