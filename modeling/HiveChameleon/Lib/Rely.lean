import HiveChameleon.Lib.Prog

/-!
# Lib.Rely — programs that rely on a part of the state each

The rely–guarantee rule for systems in which every program has its own rely, guarantee and
postcondition: what one program's requests may do is among the moves that each of the others relies on.
Programs run once; none is started over.
-/

namespace HiveChameleon.Lib

variable {Req : Type} {Resp : Req → Type} {ε α σ ι : Type} [DecidableEq ι]
variable (E : σ → σ → Prop) (H : (q : Req) → σ → Except ε (Resp q) → σ → Prop)
variable (main : ι → Prog Req Resp ε α)
variable (R : ι → σ → σ → Prop) (G : ι → Req → σ → σ → Prop) (I : σ → Prop) (Q : ι → Except ε α → σ → Prop)

/-- Each program relies on what the environment and the other programs leave alone. -/
structure Relies : Prop where
  refl : ∀ i s, R i s s
  trans : ∀ i a b c, R i a b → R i b c → R i a c
  env : ∀ i s s', E s s' → R i s s'
  others : ∀ i j q s s', j ≠ i → G i q s s' → R j s s'
  stable : ∀ i r s s', R i s s' → Q i r s → Q i r s'
  envInv : ∀ s s', E s s' → I s → I s'
  ownInv : ∀ i q s s', G i q s s' → I s → I s'

/-- A state that every program keeps safe, each under its own rely. -/
def EachSafe (S : Sys Req Resp ε α σ ι) : Prop :=
  I S.shared ∧ ∀ i, (S.procs i).Safe (R i) H (G i) (Q i) S.shared

variable {E H main R G I Q} {S S' : Sys Req Resp ε α σ ι}

theorem Relies.step (h : Relies E R G I Q) (hS : EachSafe H R G I Q S)
    {l : SysLabel Req Resp ε ι} (hstep : SysStep E H main S l S') (hl : ∀ i, l ≠ .restart i) :
    EachSafe H R G I Q S' ∧ ∀ i q r, l = .answer i q r → G i q S.shared S'.shared := by
  obtain ⟨hI, hsafe⟩ := hS
  cases hstep with
  | env hE =>
    refine ⟨⟨h.envInv _ _ hE hI, fun i => Prog.safe_env (h.trans i) (h.stable i) (h.env i _ _ hE) (hsafe i)⟩, ?_⟩
    intro i q r hl'
    cases hl'
  | @answer s s' ps i q k r hp hH =>
    have hcall : (Prog.call q k).Safe (R i) H (G i) (Q i) s := hp ▸ hsafe i
    obtain ⟨hG, hk⟩ := hcall s (h.refl i s) r s' hH
    refine ⟨⟨h.ownInv _ _ _ _ hG hI, fun j => ?_⟩, ?_⟩
    · by_cases hij : j = i
      · subst hij
        simpa using hk
      · simpa [hij] using Prog.safe_env (h.trans j) (h.stable j) (h.others i j q _ _ hij hG) (hsafe j)
    · intro j q' r' hl'
      cases hl'
      exact hG
  | restart i => exact absurd rfl (hl i)

/-- **A run from a safe state** stays safe, and every request in it keeps its guarantee. -/
theorem Relies.run (h : Relies E R G I Q) (hS : EachSafe H R G I Q S)
    {ts : List (Transition (Sys Req Resp ε α σ ι) (SysLabel Req Resp ε ι))}
    (hrun : Run (SysStep E H main) S ts S') (hts : ∀ t ∈ ts, ∀ i, t.label ≠ .restart i) :
    EachSafe H R G I Q S' ∧
      ∀ t ∈ ts, ∀ i q r, t.label = .answer i q r → G i q t.pre.shared t.post.shared := by
  obtain ⟨hfinal, hall⟩ := hrun.invariant (I := EachSafe H R G I Q) (G := fun t => ∀ i, t.label ≠ .restart i)
    (fun _ _ _ hm hl hstep => (h.step hm hstep hl).1) hS hts
  exact ⟨hfinal, fun t ht => (h.step (hall t ht).1 (hrun.step_of_mem t ht) (hts t ht)).2⟩

end HiveChameleon.Lib
