import HiveChameleon.Lib.Run
import Mathlib.Logic.Function.Basic

/-!
# Lib.Prog — request programs, their safety logic, and systems of them

A program is a tree of requests to a shared environment: it asks, and continues with the answer or
with the error it got.  One request is one atomic step; between two requests of a program the
environment, other programs included, may move.  `Safe` is the partial-correctness assertion that
carries facts about the shared state from request to request, `exec` runs one program alone, and
`SysStep` runs any number of programs side by side, each of them restarted at any time (a finished
run followed by the next one, or a crash).  The programs, the requests and the shared state are
parameters.
-/

namespace HiveChameleon.Lib

/-- A program over the requests `Req`, with results in `α` and errors in `ε`. -/
inductive Prog (Req : Type) (Resp : Req → Type) (ε α : Type) where
  | ret (a : α)
  | throw (e : ε)
  | call (q : Req) (k : Except ε (Resp q) → Prog Req Resp ε α)

namespace Prog

variable {Req : Type} {Resp : Req → Type} {ε α β : Type}

/-- Runs `f` on the result; an error ends the program. -/
def bind : Prog Req Resp ε α → (α → Prog Req Resp ε β) → Prog Req Resp ε β
  | ret a, f => f a
  | throw e, _ => throw e
  | call q k, f => call q fun r => (k r).bind f

/-- `try p catch h`. -/
def orElse : Prog Req Resp ε α → (ε → Prog Req Resp ε α) → Prog Req Resp ε α
  | ret a, _ => ret a
  | throw e, h => h e
  | call q k, h => call q fun r => (k r).orElse h

instance : Monad (Prog Req Resp ε) where
  pure := ret
  bind := bind

/-- One request; its error is raised. -/
def request (q : Req) : Prog Req Resp ε (Resp q) :=
  call q fun
    | .ok r => ret r
    | .error e => throw e

/-- A computation that makes no request. -/
def lift : Except ε α → Prog Req Resp ε α
  | .ok a => ret a
  | .error e => throw e

@[simp] theorem pure_def (a : α) : (pure a : Prog Req Resp ε α) = ret a := rfl

@[simp] theorem bind_def (p : Prog Req Resp ε α) (f : α → Prog Req Resp ε β) :
    p >>= f = p.bind f := rfl

/-- The program after the answers, when all requests have answers of one type. -/
def feed {ρ : Type} : Prog Req (fun _ => ρ) ε α → List (Except ε ρ) → Prog Req (fun _ => ρ) ε α
  | call _ k, r :: rs => (k r).feed rs
  | call q k, [] => call q k
  | ret a, _ => ret a
  | throw e, _ => throw e

/-! ### A program alone with a server -/

section Exec

variable {σ : Type} (server : (q : Req) → σ → Except ε (Resp q) × σ)

/-- Runs a program when nobody else makes requests: its result, and the state it leaves. -/
def exec : Prog Req Resp ε α → σ → Except ε α × σ
  | ret a, s => (.ok a, s)
  | throw e, s => (.error e, s)
  | call q k, s => (k (server q s).1).exec (server q s).2

variable {server} {s s' : σ}

@[simp] theorem exec_ret {a : α} : (ret a : Prog Req Resp ε α).exec server s = (.ok a, s) := rfl

@[simp] theorem exec_throw {e : ε} : (throw e : Prog Req Resp ε α).exec server s = (.error e, s) := rfl

theorem exec_request_ok {q : Req} {r : Resp q} {f : Resp q → Prog Req Resp ε α}
    (h : server q s = (.ok r, s')) : ((request q).bind f).exec server s = (f r).exec server s' := by
  show ((match (server q s).1 with
    | .ok r => ret r
    | .error e => throw e : Prog Req Resp ε (Resp q)).bind f).exec server (server q s).2 = _
  rw [h]
  rfl

theorem exec_bind_ok : ∀ {p : Prog Req Resp ε α} {f : α → Prog Req Resp ε β} {s s' : σ} {a : α},
    p.exec server s = (.ok a, s') → (p.bind f).exec server s = (f a).exec server s'
  | ret b, f, s, s', a, h => by
    obtain ⟨hresult, rfl⟩ := Prod.mk.inj h
    obtain rfl := Except.ok.inj hresult
    rfl
  | throw e, f, s, s', a, h => by
    obtain ⟨hresult, -⟩ := Prod.mk.inj h
    cases hresult
  | call q k, f, s, s', a, h => exec_bind_ok (p := k (server q s).1) h

end Exec

/-! ### How long a program runs -/

/-- The program ends after at most that many requests, whatever the answers are. -/
def Within : Prog Req Resp ε α → ℕ → Prop
  | ret _, _ => True
  | throw _, _ => True
  | call _ _, 0 => False
  | call _ k, n + 1 => ∀ r, (k r).Within n

theorem within_mono : ∀ {p : Prog Req Resp ε α} {m n : ℕ}, m ≤ n → p.Within m → p.Within n
  | ret _, _, _, _, _ => trivial
  | throw _, _, _, _, _ => trivial
  | call _ _, 0, _, _, h => h.elim
  | call _ k, m + 1, n, hle, h => by
    obtain ⟨n, rfl⟩ := Nat.exists_eq_add_of_le' hle
    exact fun r => within_mono (Nat.le_add_left m n) (h r)

theorem within_request_bind {q : Req} {f : Resp q → Prog Req Resp ε α} {n : ℕ}
    (h : ∀ a, (f a).Within n) : ((request q).bind f).Within (n + 1) := by
  intro r
  cases r with
  | ok a => exact h a
  | error e => exact trivial

/-! ### The requests of a program -/

/-- The program makes the request `q` under some answers to the requests before it. -/
inductive Makes : Prog Req Resp ε α → Req → Prop
  | now {q : Req} {k : Except ε (Resp q) → Prog Req Resp ε α} : Makes (call q k) q
  | later {q q' : Req} {k : Except ε (Resp q) → Prog Req Resp ε α} (r : Except ε (Resp q))
      (h : Makes (k r) q') : Makes (call q k) q'

@[simp] theorem not_makes_ret {a : α} {q : Req} : ¬ (ret a : Prog Req Resp ε α).Makes q := by
  intro h; cases h

@[simp] theorem not_makes_throw {e : ε} {q : Req} : ¬ (throw e : Prog Req Resp ε α).Makes q := by
  intro h; cases h

theorem makes_call {q q' : Req} {k : Except ε (Resp q) → Prog Req Resp ε α} :
    (call q k).Makes q' ↔ q = q' ∨ ∃ r, (k r).Makes q' := by
  constructor
  · intro h
    cases h with
    | now => exact .inl rfl
    | later r h => exact .inr ⟨r, h⟩
  · rintro (rfl | ⟨r, h⟩)
    · exact .now
    · exact .later r h

theorem makes_lift_bind {x : Except ε α} {f : α → Prog Req Resp ε β} {q : Req} :
    ((lift x).bind f).Makes q ↔ ∃ a, x = .ok a ∧ (f a).Makes q := by
  cases x with
  | error e => simp [lift, bind]
  | ok a => simp [lift, bind]

/-- The program makes only requests that meet `P`, under any answers. -/
def Only (P : Req → Prop) (p : Prog Req Resp ε α) : Prop := ∀ q, p.Makes q → P q

section Only

variable {P : Req → Prop}

theorem only_ret {a : α} : Only P (ret a : Prog Req Resp ε α) :=
  fun _ h => absurd h not_makes_ret

theorem only_throw {e : ε} : Only P (throw e : Prog Req Resp ε α) :=
  fun _ h => absurd h not_makes_throw

theorem only_call {q : Req} {k : Except ε (Resp q) → Prog Req Resp ε α} :
    Only P (call q k) ↔ P q ∧ ∀ r, Only P (k r) := by
  constructor
  · exact fun h => ⟨h q .now, fun r q' hq' => h q' (.later r hq')⟩
  · rintro ⟨hq, hk⟩ q' h
    rcases makes_call.mp h with rfl | ⟨r, h⟩
    · exact hq
    · exact hk r q' h

theorem only_bind {p : Prog Req Resp ε α} {f : α → Prog Req Resp ε β} (hp : Only P p)
    (hf : ∀ a, Only P (f a)) : Only P (p.bind f) := by
  induction p with
  | ret a => exact hf a
  | throw e => exact only_throw
  | call q k ih =>
    obtain ⟨hq, hk⟩ := only_call.mp hp
    exact only_call.mpr ⟨hq, fun r => ih r (hk r)⟩

theorem only_orElse {p : Prog Req Resp ε α} {h : ε → Prog Req Resp ε α} (hp : Only P p)
    (hh : ∀ e, Only P (h e)) : Only P (p.orElse h) := by
  induction p with
  | ret a => exact only_ret
  | throw e => exact hh e
  | call q k ih =>
    obtain ⟨hq, hk⟩ := only_call.mp hp
    exact only_call.mpr ⟨hq, fun r => ih r (hk r)⟩

theorem only_request {q : Req} (hq : P q) : Only P (request q : Prog Req Resp ε (Resp q)) := by
  refine only_call.mpr ⟨hq, fun r => ?_⟩
  cases r with
  | ok a => exact only_ret
  | error e => exact only_throw

theorem only_lift {x : Except ε α} : Only P (lift x : Prog Req Resp ε α) := by
  cases x with
  | ok a => exact only_ret
  | error e => exact only_throw

theorem only_mono {P' : Req → Prop} {p : Prog Req Resp ε α} (h : Only P p)
    (hP : ∀ q, P q → P' q) : Only P' p :=
  fun q hq => hP q (h q hq)

theorem only_ite {c : Prop} [Decidable c] {p p' : Prog Req Resp ε α} (hp : Only P p)
    (hp' : Only P p') : Only P (if c then p else p') := by
  by_cases h : c
  · rw [if_pos h]
    exact hp
  · rw [if_neg h]
    exact hp'

end Only

/-! ### The safety logic -/

section Safe

variable {σ : Type}
variable (E : σ → σ → Prop) (H : (q : Req) → σ → Except ε (Resp q) → σ → Prop)
variable (G : Req → σ → σ → Prop)

/-- From `s`, whatever moves of `E` happen before each request and whatever `H` answers: every
request is a step that `G` allows, and the program can only end with `Q`. -/
def Safe : Prog Req Resp ε α → (Except ε α → σ → Prop) → σ → Prop
  | ret a, Q, s => Q (.ok a) s
  | throw e, Q, s => Q (.error e) s
  | call q k, Q, s => ∀ s₁, E s s₁ → ∀ r s₂, H q s₁ r s₂ → G q s₁ s₂ ∧ (k r).Safe Q s₂

variable {E H G}

/-- The postcondition that runs `f` next. -/
def andThen (E : σ → σ → Prop) (H : (q : Req) → σ → Except ε (Resp q) → σ → Prop)
    (G : Req → σ → σ → Prop) (f : α → Prog Req Resp ε β) (Q : Except ε β → σ → Prop) :
    Except ε α → σ → Prop
  | .ok a, s => (f a).Safe E H G Q s
  | .error e, s => Q (.error e) s

theorem safe_bind {p : Prog Req Resp ε α} {f : α → Prog Req Resp ε β}
    {Q : Except ε β → σ → Prop} {s : σ} (h : p.Safe E H G (andThen E H G f Q) s) :
    (p.bind f).Safe E H G Q s := by
  induction p generalizing s with
  | ret a => exact h
  | throw e => exact h
  | call q k ih => exact fun s₁ hE r s₂ hH => ⟨(h s₁ hE r s₂ hH).1, ih r (h s₁ hE r s₂ hH).2⟩

theorem safe_mono {p : Prog Req Resp ε α} {Q Q' : Except ε α → σ → Prop} {s : σ}
    (h : p.Safe E H G Q s) (hQ : ∀ r s, Q r s → Q' r s) : p.Safe E H G Q' s := by
  induction p generalizing s with
  | ret a => exact hQ _ _ h
  | throw e => exact hQ _ _ h
  | call q k ih => exact fun s₁ hE r s₂ hH => ⟨(h s₁ hE r s₂ hH).1, ih r (h s₁ hE r s₂ hH).2⟩

theorem safe_and {p : Prog Req Resp ε α} {Q : Except ε α → σ → Prop} {I : σ → Prop} {s : σ}
    (hG : ∀ q a b, G q a b → I b) (hI : I s) (h : p.Safe E H G Q s) :
    p.Safe E H G (fun r s => Q r s ∧ I s) s := by
  induction p generalizing s with
  | ret a => exact ⟨h, hI⟩
  | throw e => exact ⟨h, hI⟩
  | call q k ih =>
    intro s₁ hE r s₂ hH
    obtain ⟨hGq, hk⟩ := h s₁ hE r s₂ hH
    exact ⟨hGq, ih r (hG q s₁ s₂ hGq) hk⟩

/-- What neither the environment nor an answer takes away holds at the end, when it held at the
start. -/
theorem safe_stable {p : Prog Req Resp ε α} {Q : Except ε α → σ → Prop} {I : σ → Prop} {s : σ}
    (hE : ∀ a b, E a b → I a → I b) (hH : ∀ q a r b, H q a r b → I a → I b) (hI : I s)
    (h : p.Safe E H G Q s) : p.Safe E H G (fun r s => Q r s ∧ I s) s := by
  induction p generalizing s with
  | ret a => exact ⟨h, hI⟩
  | throw e => exact ⟨h, hI⟩
  | call q k ih =>
    intro s₁ hs₁ r s₂ hs₂
    obtain ⟨hG, hk⟩ := h s₁ hs₁ r s₂ hs₂
    exact ⟨hG, ih r (hH q s₁ r s₂ hs₂ (hE s s₁ hs₁ hI)) hk⟩

/-- **The frame rule**: what no move takes away may be added to the postcondition. -/
theorem safe_frame {p : Prog Req Resp ε α} {Q : Except ε α → σ → Prop} {I : σ → Prop} {s : σ}
    (hE : ∀ a b, E a b → I a → I b) (hG : ∀ q a b, G q a b → I a → I b) (hI : I s)
    (h : p.Safe E H G Q s) : p.Safe E H G (fun r s => Q r s ∧ I s) s := by
  induction p generalizing s with
  | ret a => exact ⟨h, hI⟩
  | throw e => exact ⟨h, hI⟩
  | call q k ih =>
    intro s₁ hs₁ r s₂ hs₂
    obtain ⟨hGq, hk⟩ := h s₁ hs₁ r s₂ hs₂
    exact ⟨hGq, ih r (hG q s₁ s₂ hGq (hE s s₁ hs₁ hI)) hk⟩

/-- A program is safe when each request that it can make is allowed in every state of `I`. -/
theorem safe_of_only {P : Req → Prop} {I : σ → Prop} {p : Prog Req Resp ε α} {s : σ}
    (hE : ∀ a b, E a b → I a → I b) (hP : ∀ q a r b, P q → I a → H q a r b → G q a b ∧ I b)
    (hI : I s) (h : Only P p) : p.Safe E H G (fun _ s => I s) s := by
  induction p generalizing s with
  | ret a => exact hI
  | throw e => exact hI
  | call q k ih =>
    intro s₁ hs₁ r s₂ hs₂
    obtain ⟨hq, hk⟩ := only_call.mp h
    obtain ⟨hG, hI₂⟩ := hP q s₁ r s₂ hq (hE s s₁ hs₁ hI) hs₂
    exact ⟨hG, ih r hI₂ (hk r)⟩

theorem safe_orElse {p : Prog Req Resp ε α} {h : ε → Prog Req Resp ε α}
    {Q : Except ε α → σ → Prop} {s : σ}
    (hp : p.Safe E H G (fun r s => match r with
      | .ok a => Q (.ok a) s
      | .error e => (h e).Safe E H G Q s) s) :
    (p.orElse h).Safe E H G Q s := by
  induction p generalizing s with
  | ret a => exact hp
  | throw e => exact hp
  | call q k ih => exact fun s₁ hE r s₂ hH => ⟨(hp s₁ hE r s₂ hH).1, ih r (hp s₁ hE r s₂ hH).2⟩

theorem safe_request {q : Req} {Q : Except ε (Resp q) → σ → Prop} {s : σ}
    (h : ∀ s₁, E s s₁ → ∀ r s₂, H q s₁ r s₂ → G q s₁ s₂ ∧ Q r s₂) :
    (request q : Prog Req Resp ε (Resp q)).Safe E H G Q s := by
  intro s₁ hE r s₂ hH
  refine ⟨(h s₁ hE r s₂ hH).1, ?_⟩
  cases r with
  | ok a => exact (h s₁ hE _ s₂ hH).2
  | error e => exact (h s₁ hE _ s₂ hH).2

theorem safe_request_bind {q : Req} {f : Resp q → Prog Req Resp ε α} {Q : Except ε α → σ → Prop}
    {s : σ} (h : ∀ s₁, E s s₁ → ∀ r s₂, H q s₁ r s₂ → G q s₁ s₂ ∧ andThen E H G f Q r s₂) :
    ((request q).bind f).Safe E H G Q s :=
  safe_bind (safe_request h)

@[simp] theorem safe_lift {x : Except ε α} {Q : Except ε α → σ → Prop} {s : σ} :
    (lift x : Prog Req Resp ε α).Safe E H G Q s ↔ Q x s := by
  cases x <;> rfl

theorem safe_env (htrans : ∀ a b c, E a b → E b c → E a c) {p : Prog Req Resp ε α}
    {Q : Except ε α → σ → Prop} (hQ : ∀ r a b, E a b → Q r a → Q r b) {s s' : σ}
    (hE : E s s') (h : p.Safe E H G Q s) : p.Safe E H G Q s' := by
  cases p with
  | ret a => exact hQ _ _ _ hE h
  | throw e => exact hQ _ _ _ hE h
  | call q k => exact fun s₁ hE' r s₂ hH => h s₁ (htrans _ _ _ hE hE') r s₂ hH

theorem safe_assume {G' : Req → σ → σ → Prop} {Q' : Except ε α → σ → Prop}
    {p : Prog Req Resp ε α} {Q : Except ε α → σ → Prop} {s : σ} (h : p.Safe E H G Q s)
    (h' : p.Safe E (fun q a r b => H q a r b ∧ G q a b) G' Q' s) :
    p.Safe E H (fun q a b => G q a b ∧ G' q a b) (fun r s => Q r s ∧ Q' r s) s := by
  induction p generalizing s with
  | ret a => exact ⟨h, h'⟩
  | throw e => exact ⟨h, h'⟩
  | call q k ih =>
    intro s₁ hE r s₂ hH
    obtain ⟨hG, hk⟩ := h s₁ hE r s₂ hH
    obtain ⟨hG', hk'⟩ := h' s₁ hE r s₂ ⟨hH, hG⟩
    exact ⟨⟨hG, hG'⟩, ih r hk hk'⟩

theorem safe_comap {τ : Type} {φ : τ → σ} {F : τ → τ → Prop}
    {K : (q : Req) → τ → Except ε (Resp q) → τ → Prop} (hE : ∀ a b, F a b → E (φ a) (φ b))
    (hH : ∀ q a r b, K q a r b → H q (φ a) r (φ b)) {p : Prog Req Resp ε α}
    {Q : Except ε α → σ → Prop} {t : τ} (h : p.Safe E H G Q (φ t)) :
    p.Safe F K (fun q a b => G q (φ a) (φ b)) (fun r t => Q r (φ t)) t := by
  induction p generalizing t with
  | ret a => exact h
  | throw e => exact h
  | call q k ih =>
    intro t₁ ht₁ r t₂ ht₂
    obtain ⟨hG, hk⟩ := h (φ t₁) (hE _ _ ht₁) r (φ t₂) (hH _ _ _ _ ht₂)
    exact ⟨hG, ih r hk⟩

theorem safe_exec {server : (q : Req) → σ → Except ε (Resp q) × σ} {I : σ → Prop}
    (hserver : ∀ q s, I s → H q s (server q s).1 (server q s).2 ∧ I (server q s).2)
    {p : Prog Req Resp ε α} {Q : Except ε α → σ → Prop} {s : σ} (hI : I s) (h : p.Safe Eq H G Q s) :
    Q (p.exec server s).1 (p.exec server s).2 := by
  induction p generalizing s with
  | ret a => exact h
  | throw e => exact h
  | call q k ih =>
    obtain ⟨hanswer, hnext⟩ := hserver q s hI
    exact ih _ hnext (h s rfl _ _ hanswer).2

end Safe

end Prog

/-! ### Systems of programs over one shared state -/

section Sys

variable {Req : Type} {Resp : Req → Type} {ε α σ ι : Type}

/-- The shared state and what each program has still to do. -/
structure Sys (Req : Type) (Resp : Req → Type) (ε α σ ι : Type) where
  shared : σ
  procs : ι → Prog Req Resp ε α

/-- What happened in a step: the environment moved, a program got an answer, or a program was
started over. -/
inductive SysLabel (Req : Type) (Resp : Req → Type) (ε ι : Type) where
  | env
  | answer (i : ι) (q : Req) (r : Except ε (Resp q))
  | restart (i : ι)

variable [DecidableEq ι]
variable (E : σ → σ → Prop) (H : (q : Req) → σ → Except ε (Resp q) → σ → Prop)
variable (main : ι → Prog Req Resp ε α)

/-- One step of the programs `main`, in any interleaving. -/
inductive SysStep : Sys Req Resp ε α σ ι → SysLabel Req Resp ε ι → Sys Req Resp ε α σ ι → Prop where
  | env {s s' : σ} {ps : ι → Prog Req Resp ε α} (h : E s s') : SysStep ⟨s, ps⟩ .env ⟨s', ps⟩
  | answer {s s' : σ} {ps : ι → Prog Req Resp ε α} (i : ι) {q : Req}
      {k : Except ε (Resp q) → Prog Req Resp ε α} {r : Except ε (Resp q)}
      (hp : ps i = .call q k) (h : H q s r s') :
      SysStep ⟨s, ps⟩ (.answer i q r) ⟨s', Function.update ps i (k r)⟩
  | restart {s : σ} {ps : ι → Prog Req Resp ε α} (i : ι) :
      SysStep ⟨s, ps⟩ (.restart i) ⟨s, Function.update ps i (main i)⟩

variable {E H main} {G : Req → σ → σ → Prop} {I : σ → Prop} {Q : Except ε α → σ → Prop}

/-- A state of the system that its programs keep safe. -/
def SysSafe (E : σ → σ → Prop) (H : (q : Req) → σ → Except ε (Resp q) → σ → Prop)
    (G : Req → σ → σ → Prop) (I : σ → Prop) (Q : Except ε α → σ → Prop)
    (S : Sys Req Resp ε α σ ι) : Prop :=
  I S.shared ∧ ∀ i, (S.procs i).Safe E H G Q S.shared

/-- **The rely–guarantee rule**: when what one program's requests may do is among the moves the
others rely on, and every program is safe from every state of `I`, then every step from a safe
state is one that `G` allows and leads to a safe state. -/
theorem sysSafe_step (htrans : ∀ a b c, E a b → E b c → E a c)
    (hQ : ∀ r a b, E a b → Q r a → Q r b) (hIE : ∀ s s', E s s' → I s → I s')
    (hIG : ∀ q s s', G q s s' → I s → I s')
    (hrely : ∀ (i j : ι) q s s', i ≠ j → G q s s' → E s s')
    (hmain : ∀ i s, I s → (main i).Safe E H G Q s) (hrefl : ∀ s, E s s)
    {S S' : Sys Req Resp ε α σ ι} {l : SysLabel Req Resp ε ι} (hS : SysSafe E H G I Q S)
    (h : SysStep E H main S l S') :
    SysSafe E H G I Q S' ∧ ∀ i q r, l = .answer i q r → G q S.shared S'.shared := by
  obtain ⟨hI, hsafe⟩ := hS
  cases h with
  | env hE =>
    refine ⟨⟨hIE _ _ hE hI, fun i => Prog.safe_env htrans hQ hE (hsafe i)⟩, ?_⟩
    intro i q r hl; cases hl
  | @answer s s' ps i q k r hp hH =>
    have hcall : (Prog.call q k).Safe E H G Q s := hp ▸ hsafe i
    obtain ⟨hG, hk⟩ := hcall s (hrefl s) r s' hH
    refine ⟨⟨hIG _ _ _ hG hI, fun j => ?_⟩, ?_⟩
    · by_cases hij : j = i
      · subst hij; simpa using hk
      · simpa [hij] using Prog.safe_env htrans hQ (hrely i j _ _ _ (Ne.symm hij) hG) (hsafe j)
    · intro j q' r' hl
      cases hl; exact hG
  | @restart s ps i =>
    refine ⟨⟨hI, fun j => ?_⟩, ?_⟩
    · by_cases hij : j = i
      · subst hij; simpa using hmain j s hI
      · simpa [hij] using hsafe j
    · intro j q' r' hl; cases hl

section Bounded

variable {P : Req → Prop} {S S' : Sys Req Resp ε α σ ι} {i : ι}

theorem SysStep.only {l : SysLabel Req Resp ε ι} (hstep : SysStep E H main S l S')
    (h : Prog.Only P (S.procs i)) (hl : l ≠ .restart i) :
    Prog.Only P (S'.procs i) ∧ ∀ q r, l = .answer i q r → P q := by
  cases hstep with
  | env hE => exact ⟨h, fun q r hl' => by cases hl'⟩
  | @answer s s' ps j q k r hp hH =>
    by_cases hij : i = j
    · subst hij
      have hcall : Prog.Only P (.call q k) := hp ▸ h
      obtain ⟨hq, hk⟩ := Prog.only_call.mp hcall
      refine ⟨?_, fun q' r' hl' => ?_⟩
      · show Prog.Only P (Function.update ps i (k r) i)
        rw [Function.update_self]
        exact hk r
      · cases hl'
        exact hq
    · refine ⟨?_, fun q' r' hl' => ?_⟩
      · show Prog.Only P (Function.update ps j (k r) i)
        rw [Function.update_of_ne hij]
        exact h
      · cases hl'
        exact absurd rfl hij
  | @restart s ps j =>
    have hij : i ≠ j := fun hij => hl (by rw [hij])
    refine ⟨?_, fun q r hl' => by cases hl'⟩
    show Prog.Only P (Function.update ps j (main j) i)
    rw [Function.update_of_ne hij]
    exact h

theorem Sys.only_of_run {ts : List (Transition (Sys Req Resp ε α σ ι) (SysLabel Req Resp ε ι))}
    (hrun : Run (SysStep E H main) S ts S') (h : Prog.Only P (S.procs i))
    (hts : ∀ t ∈ ts, t.label ≠ .restart i) : Prog.Only P (S'.procs i) :=
  (hrun.invariant (I := fun S => Prog.Only P (S.procs i)) (G := fun t => t.label ≠ .restart i)
    (fun _ _ _ hm hl hstep => (hstep.only hm hl).1) h hts).1

/-- Every program is at its beginning or bound to the requests after its first one. -/
def Sys.Begun (main : ι → Prog Req Resp ε α) (P : Req → Prop) (S : Sys Req Resp ε α σ ι) : Prop :=
  ∀ i, S.procs i = main i ∨ Prog.Only P (S.procs i)

theorem SysStep.begun {l : SysLabel Req Resp ε ι} (hstep : SysStep E H main S l S')
    (hmain : ∀ i q k, main i = .call q k → ∀ r, Prog.Only P (k r)) (h : S.Begun main P) :
    S'.Begun main P := by
  intro i
  by_cases hl : l = .restart i
  · subst hl
    cases hstep with
    | @restart s ps =>
      left
      show Function.update ps i (main i) i = main i
      rw [Function.update_self]
  rcases h i with hstart | honly
  · cases hstep with
    | env hE => exact .inl hstart
    | @answer s s' ps j q k r hp hH =>
      by_cases hij : i = j
      · subst hij
        right
        show Prog.Only P (Function.update ps i (k r) i)
        rw [Function.update_self]
        have hcall : main i = .call q k := hstart.symm.trans hp
        exact hmain i q k hcall r
      · left
        show Function.update ps j (k r) i = main i
        rw [Function.update_of_ne hij]
        exact hstart
    | @restart s ps j =>
      have hij : i ≠ j := fun hij => hl (by rw [hij])
      left
      show Function.update ps j (main j) i = main i
      rw [Function.update_of_ne hij]
      exact hstart
  · exact .inr (hstep.only honly hl).1

end Bounded

/-! ### Scheduled execution -/

section Follow

variable {δ : Type} (h : δ → (q : Req) → σ → Except ε (Resp q) × σ)
variable (main : ι → Prog Req Resp ε α)

/-- Lets program `i` take one step, its request answered as `d` says; a program that has ended is
started over. -/
def Sys.next (S : Sys Req Resp ε α σ ι) (i : ι) (d : δ) : Sys Req Resp ε α σ ι :=
  match S.procs i with
  | .call q k => ⟨(h d q S.shared).2, Function.update S.procs i (k (h d q S.shared).1)⟩
  | .ret _ => ⟨S.shared, Function.update S.procs i (main i)⟩
  | .throw _ => ⟨S.shared, Function.update S.procs i (main i)⟩

/-- Follows a schedule of programs and answers. -/
def Sys.follow : Sys Req Resp ε α σ ι → List (ι × δ) → Sys Req Resp ε α σ ι
  | S, [] => S
  | S, (i, d) :: schedule => (S.next h main i d).follow schedule

/-- What `Sys.next` does. -/
def Sys.nextLabel (S : Sys Req Resp ε α σ ι) (i : ι) (d : δ) : SysLabel Req Resp ε ι :=
  match S.procs i with
  | .call q _ => .answer i q (h d q S.shared).1
  | .ret _ => .restart i
  | .throw _ => .restart i

/-- The steps that `Sys.follow` takes. -/
def Sys.followed : Sys Req Resp ε α σ ι → List (ι × δ) →
    List (Transition (Sys Req Resp ε α σ ι) (SysLabel Req Resp ε ι))
  | _, [] => []
  | S, (i, d) :: schedule =>
    ⟨S, S.nextLabel h i d, S.next h main i d⟩ :: (S.next h main i d).followed schedule

variable {h main}

theorem Sys.next_step (hH : ∀ d q s, H q s (h d q s).1 (h d q s).2) (S : Sys Req Resp ε α σ ι)
    (i : ι) (d : δ) : SysStep E H main S (S.nextLabel h i d) (S.next h main i d) := by
  obtain ⟨s, ps⟩ := S
  unfold Sys.next Sys.nextLabel
  cases hp : ps i with
  | call q k => simp only [hp]; exact .answer i hp (hH d q s)
  | ret a => simp only [hp]; exact .restart i
  | throw e => simp only [hp]; exact .restart i

theorem Sys.followed_run (hH : ∀ d q s, H q s (h d q s).1 (h d q s).2) :
    ∀ (schedule : List (ι × δ)) (S : Sys Req Resp ε α σ ι),
      Run (SysStep E H main) S (S.followed h main schedule) (S.follow h main schedule)
  | [], S => .refl S
  | (i, d) :: schedule, S => by
    have hnext : SysStep E H main S (S.nextLabel h i d) (S.next h main i d) := Sys.next_step hH S i d
    exact (Run.single hnext).append (Sys.followed_run hH schedule (S.next h main i d))

theorem Sys.follow_run (hH : ∀ d q s, H q s (h d q s).1 (h d q s).2)
    (schedule : List (ι × δ)) (S : Sys Req Resp ε α σ ι) :
    ∃ ts, Run (SysStep E H main) S ts (S.follow h main schedule) :=
  ⟨_, Sys.followed_run hH schedule S⟩

end Follow

end Sys

end HiveChameleon.Lib
