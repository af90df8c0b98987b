import Mathlib.Data.List.Basic
import Mathlib.Logic.Relation

/-!
# Lib.Run — labelled runs of a transition relation

A run records every transition it takes, the states before and after each one included, so that a
side condition on a step may speak of the state it is taken in.  Rules: composition, the guarded
invariant rule, relations kept by every step, and an executable scheduler whose successful
replays are runs.  Nothing here knows which system is run.
-/

namespace HiveChameleon.Lib

universe u v

/-- One step taken: the state before it, its label and the state after it. -/
structure Transition (σ : Type u) (ℓ : Type v) where
  pre : σ
  label : ℓ
  post : σ

/-- `Run Step s ts s'`: the transitions `ts`, taken in this order, lead from `s` to `s'`. -/
inductive Run {σ : Type u} {ℓ : Type v} (Step : σ → ℓ → σ → Prop) :
    σ → List (Transition σ ℓ) → σ → Prop where
  | refl (s : σ) : Run Step s [] s
  | snoc {s m s' : σ} {ts : List (Transition σ ℓ)} {l : ℓ} :
      Run Step s ts m → Step m l s' → Run Step s (ts ++ [⟨m, l, s'⟩]) s'

variable {σ : Type u} {ℓ : Type v} {Step : σ → ℓ → σ → Prop}

namespace Run

theorem single {s s' : σ} {l : ℓ} (h : Step s l s') : Run Step s [⟨s, l, s'⟩] s' := by
  simpa using (Run.refl s).snoc h

theorem append {s m s' : σ} {ts us : List (Transition σ ℓ)} (h : Run Step s ts m)
    (h' : Run Step m us s') : Run Step s (ts ++ us) s' := by
  induction h' with
  | refl => simpa using h
  | snoc _ hl ih => rw [← List.append_assoc]; exact ih.snoc hl

theorem step_of_mem {s s' : σ} {ts : List (Transition σ ℓ)} (h : Run Step s ts s') :
    ∀ t ∈ ts, Step t.pre t.label t.post := by
  induction h with
  | refl => simp
  | snoc _ hl ih =>
    intro t ht
    rcases List.mem_append.mp ht with ht | ht
    · exact ih t ht
    · rw [List.mem_singleton.mp ht]; exact hl

theorem of_steps {Step' : σ → ℓ → σ → Prop} {s s' : σ} {ts : List (Transition σ ℓ)}
    (h : Run Step s ts s') (hall : ∀ t ∈ ts, Step' t.pre t.label t.post) : Run Step' s ts s' := by
  induction h with
  | refl => exact .refl _
  | @snoc m s' ts l _ _ ih =>
    have hlast : Step' m l s' := hall ⟨m, l, s'⟩ (by simp)
    exact (ih fun t ht => hall t (List.mem_append_left _ ht)).snoc hlast

/-- **Guarded invariant rule**: an invariant kept by the steps that meet `G` holds before and
after every step of a run whose steps all meet `G`. -/
theorem invariant {I : σ → Prop} {G : Transition σ ℓ → Prop}
    (hstep : ∀ m l m', I m → G ⟨m, l, m'⟩ → Step m l m' → I m')
    {s s' : σ} {ts : List (Transition σ ℓ)} (h : Run Step s ts s') (hs : I s)
    (hG : ∀ t ∈ ts, G t) : I s' ∧ ∀ t ∈ ts, I t.pre ∧ I t.post := by
  induction h with
  | refl => exact ⟨hs, by simp⟩
  | @snoc m s' ts l _ hl ih =>
    obtain ⟨hm, hall⟩ := ih fun t ht => hG t (List.mem_append_left _ ht)
    have hs' : I s' := hstep m l s' hm (hG ⟨m, l, s'⟩ (by simp)) hl
    refine ⟨hs', fun t ht => ?_⟩
    rcases List.mem_append.mp ht with ht | ht
    · exact hall t ht
    · rw [List.mem_singleton.mp ht]; exact ⟨hm, hs'⟩

theorem invariant' {I : σ → Prop} (hstep : ∀ m l m', I m → Step m l m' → I m')
    {s s' : σ} {ts : List (Transition σ ℓ)} (h : Run Step s ts s') (hs : I s) :
    I s' ∧ ∀ t ∈ ts, I t.pre ∧ I t.post :=
  invariant (G := fun _ => True) (fun m l m' hI _ hl => hstep m l m' hI hl) h hs
    fun _ _ => trivial

theorem pre_of_post {P : σ → Prop} {s s' : σ} {ts : List (Transition σ ℓ)} (h : Run Step s ts s')
    (hs : P s) (hall : ∀ t ∈ ts, P t.post) : P s' ∧ ∀ t ∈ ts, P t.pre := by
  induction h with
  | refl => exact ⟨hs, by simp⟩
  | @snoc m s' ts l _ _ ih =>
    obtain ⟨hm, hpre⟩ := ih fun t ht => hall t (List.mem_append_left _ ht)
    refine ⟨hall ⟨m, l, s'⟩ (by simp), fun t ht => ?_⟩
    rcases List.mem_append.mp ht with ht | ht
    · exact hpre t ht
    · rw [List.mem_singleton.mp ht]; exact hm

/-- A preorder that every step respects, under an invariant, relates the ends of a run. -/
theorem related {I : σ → Prop} {R : σ → σ → Prop} (hrefl : ∀ s, R s s)
    (htrans : ∀ a b c, R a b → R b c → R a c)
    (hstep : ∀ m l m', I m → Step m l m' → I m' ∧ R m m')
    {s s' : σ} {ts : List (Transition σ ℓ)} (h : Run Step s ts s') (hs : I s) : R s s' := by
  suffices I s' ∧ R s s' from this.2
  induction h with
  | refl => exact ⟨hs, hrefl _⟩
  | snoc _ hl ih =>
    obtain ⟨hI, hR⟩ := ih
    exact ⟨(hstep _ _ _ hI hl).1, htrans _ _ _ hR (hstep _ _ _ hI hl).2⟩

theorem split_of_mem {s s' : σ} {ts : List (Transition σ ℓ)} (h : Run Step s ts s')
    {t : Transition σ ℓ} (ht : t ∈ ts) :
    ∃ us vs, ts = us ++ [t] ++ vs ∧ Run Step s us t.pre ∧ Step t.pre t.label t.post ∧
      Run Step t.post vs s' := by
  induction h with
  | refl => simp at ht
  | @snoc m s' ts l hr hl ih =>
    rcases List.mem_append.mp ht with ht | ht
    · obtain ⟨us, vs, rfl, h1, h2, h3⟩ := ih ht
      exact ⟨us, vs ++ [⟨m, l, s'⟩], by simp, h1, h2, h3.snoc hl⟩
    · obtain rfl := List.mem_singleton.mp ht
      exact ⟨ts, [], by simp, hr, hl, .refl _⟩

theorem of_append {s s' : σ} {us vs : List (Transition σ ℓ)} (h : Run Step s (us ++ vs) s') :
    ∃ m, Run Step s us m ∧ Run Step m vs s' := by
  generalize hts : us ++ vs = ts at h
  induction h generalizing vs with
  | refl =>
    obtain ⟨rfl, rfl⟩ := List.append_eq_nil_iff.mp hts
    exact ⟨s, .refl _, .refl _⟩
  | @snoc m s' ts l hr hl ih =>
    rcases List.eq_nil_or_concat vs with rfl | ⟨vs, t, rfl⟩
    · rw [List.append_nil] at hts
      exact ⟨s', hts ▸ hr.snoc hl, .refl _⟩
    · rw [List.concat_eq_append, ← List.append_assoc] at hts
      obtain ⟨hinit, hlast⟩ := List.append_inj' hts rfl
      obtain ⟨m', hus, hvs⟩ := ih hinit
      obtain rfl := (List.cons.inj hlast).1
      exact ⟨m', hus, by rw [List.concat_eq_append]; exact hvs.snoc hl⟩

theorem eq_of_nil {s s' : σ} (h : Run Step s [] s') : s' = s := by
  generalize hts : ([] : List (Transition σ ℓ)) = ts at h
  cases h with
  | refl => rfl
  | snoc _ _ => simp at hts

theorem of_cons {s s' : σ} {t : Transition σ ℓ} {ts : List (Transition σ ℓ)}
    (h : Run Step s (t :: ts) s') :
    t.pre = s ∧ Step t.pre t.label t.post ∧ Run Step t.post ts s' := by
  generalize hus : t :: ts = us at h
  induction h generalizing ts with
  | refl => cases hus
  | @snoc m s' us l hr hl ih =>
    cases us with
    | nil =>
      obtain ⟨rfl, rfl⟩ := List.cons.inj hus
      obtain rfl := hr.eq_of_nil
      exact ⟨rfl, hl, .refl _⟩
    | cons u us =>
      obtain ⟨rfl, rfl⟩ := List.cons.inj hus
      obtain ⟨hpre, hfirst, hrest⟩ := ih rfl
      exact ⟨hpre, hfirst, hrest.snoc hl⟩

theorem of_foldl {f : σ → ℓ → σ} (hf : ∀ s l, Step s l (f s l)) :
    ∀ (ls : List ℓ) (s : σ), ∃ ts, Run Step s ts (ls.foldl f s)
  | [], s => ⟨[], .refl s⟩
  | l :: ls, s => by
    obtain ⟨ts, hts⟩ := of_foldl hf ls (f s l)
    exact ⟨_, (single (hf s l)).append hts⟩

end Run

/-- A state that some run reaches. -/
def Reachable (Step : σ → ℓ → σ → Prop) (s s' : σ) : Prop := ∃ ts, Run Step s ts s'

section Replay

variable (step : σ → ℓ → Option σ)

/-- Follows the schedule `ls` from `s`, recording the transitions; `none` at the first label that
does not apply. -/
def replay : σ → List ℓ → Option (List (Transition σ ℓ) × σ)
  | s, [] => some ([], s)
  | s, l :: ls =>
    match step s l with
    | none => none
    | some m =>
      match replay m ls with
      | none => none
      | some (ts, s') => some (⟨s, l, m⟩ :: ts, s')

variable {step}

theorem replay_run (hsound : ∀ s l s', step s l = some s' → Step s l s') :
    ∀ {ls : List ℓ} {s s' : σ} {ts : List (Transition σ ℓ)}, replay step s ls = some (ts, s') →
      Run Step s ts s' ∧ ts.map Transition.label = ls
  | [], s, s', ts, h => by
    simp only [replay, Option.some.injEq, Prod.mk.injEq] at h
    obtain ⟨rfl, rfl⟩ := h
    exact ⟨.refl _, rfl⟩
  | l :: ls, s, s', ts, h => by
    simp only [replay] at h
    split at h
    · cases h
    · rename_i m hm
      split at h
      · cases h
      · rename_i us r hr
        simp only [Option.some.injEq, Prod.mk.injEq] at h
        obtain ⟨rfl, rfl⟩ := h
        obtain ⟨hrun, hls⟩ := replay_run hsound hr
        exact ⟨(Run.single (hsound _ _ _ hm)).append hrun, by simp [hls]⟩

end Replay

end HiveChameleon.Lib
