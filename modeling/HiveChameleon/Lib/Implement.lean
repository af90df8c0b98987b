import HiveChameleon.Lib.Traces

/-!
# Lib.Implement — programs over one set of requests, run over another

`implement` replaces each request of a program by a program over lower requests.  When the lower programs
answer, against a lower server, what an upper server answers, the whole program does against the lower
server what it does against the upper one (`exec_implement`); the programs have to agree on the requests
that are made only.
-/

namespace HiveChameleon.Lib.Prog

variable {Req Low : Type} {Resp : Req → Type} {LowResp : Low → Type} {ε α β σ τ : Type}

/-- Each request as a program of lower requests. -/
def implement (impl : (q : Req) → Prog Low LowResp ε (Resp q)) :
    Prog Req Resp ε α → Prog Low LowResp ε α
  | ret a => ret a
  | throw e => throw e
  | call q k => (impl q).attempt fun r => (k r).implement impl

/-- The answers of a server. -/
def Answers (server : (q : Req) → σ → Except ε (Resp q) × σ) (q : Req) (s : σ) (r : Except ε (Resp q))
    (s' : σ) : Prop := server q s = (r, s')

/-- **The refinement rule**: `φ` forgets what only the lower server knows, `G` is what is known of the
requests that the program makes alone with the upper server. -/
theorem exec_implement {server : (q : Req) → σ → Except ε (Resp q) × σ}
    {lower : (q : Low) → τ → Except ε (LowResp q) × τ} {impl : (q : Req) → Prog Low LowResp ε (Resp q)}
    {φ : τ → σ} {G : Req → σ → σ → Prop} {Q : Except ε α → σ → Prop}
    (himpl : ∀ q t, G q (φ t) (server q (φ t)).2 →
      ((impl q).exec lower t).1 = (server q (φ t)).1 ∧
        φ ((impl q).exec lower t).2 = (server q (φ t)).2)
    {p : Prog Req Resp ε α} {t : τ} (h : p.Safe Eq (Answers server) G Q (φ t)) :
    ((p.implement impl).exec lower t).1 = (p.exec server (φ t)).1 ∧
      φ ((p.implement impl).exec lower t).2 = (p.exec server (φ t)).2 := by
  induction p generalizing t with
  | ret a => exact ⟨rfl, rfl⟩
  | throw e => exact ⟨rfl, rfl⟩
  | call q k ih =>
    obtain ⟨hG, hrest⟩ := h (φ t) rfl (server q (φ t)).1 (server q (φ t)).2 rfl
    obtain ⟨hanswer, hstate⟩ := himpl q t hG
    rw [← hstate] at hrest
    have hnext := ih (server q (φ t)).1 hrest
    rw [implement, exec_attempt, hanswer]
    rw [hstate] at hnext
    exact hnext

/-! ### The requests that are made -/

section Asks

variable {server : (q : Req) → σ → Except ε (Resp q) × σ} {P : Req → Prop} {s : σ}

/-- Alone with the server, every request satisfies `P`, and a result satisfies `Q`. -/
abbrev Asks (server : (q : Req) → σ → Except ε (Resp q) × σ) (P : Req → Prop) (p : Prog Req Resp ε α)
    (Q : α → Prop) (s : σ) : Prop :=
  p.Safe Eq (Answers server) (fun q _ _ => P q) (fun r _ => ∀ a, r = .ok a → Q a) s

theorem asks_ret {a : α} {Q : α → Prop} (h : Q a) : Asks server P (ret a : Prog Req Resp ε α) Q s := by
  rintro _ ⟨⟩
  exact h

theorem asks_throw {e : ε} {Q : α → Prop} : Asks server P (throw e : Prog Req Resp ε α) Q s := nofun

theorem asks_bind {p : Prog Req Resp ε α} {f : α → Prog Req Resp ε β} {Q : α → Prop} {Q' : β → Prop}
    (hp : Asks server P p Q s) (hf : ∀ a s', Q a → Asks server P (f a) Q' s') :
    Asks server P (p.bind f) Q' s := by
  refine safe_bind (safe_mono hp ?_)
  rintro (e | a) s' hr
  · exact nofun
  · exact hf a s' (hr a rfl)

theorem asks_request {q : Req} {Q : Resp q → Prop} (hq : P q)
    (hQ : ∀ a s', server q s = (.ok a, s') → Q a) :
    Asks server P (request q : Prog Req Resp ε (Resp q)) Q s := by
  refine safe_request ?_
  rintro _ rfl r s' hanswer
  refine ⟨hq, ?_⟩
  rintro a rfl
  exact hQ a s' hanswer

theorem asks_request_bind {q : Req} {f : Resp q → Prog Req Resp ε α} {Q : α → Prop} (hq : P q)
    (hf : ∀ a s', server q s = (.ok a, s') → Asks server P (f a) Q s') :
    Asks server P ((request q).bind f) Q s := by
  refine safe_request_bind ?_
  rintro _ rfl r s' hanswer
  refine ⟨hq, ?_⟩
  cases r with
  | ok a => exact hf a s' hanswer
  | error e => exact nofun

theorem asks_lift_bind {x : Except ε α} {f : α → Prog Req Resp ε β} {Q : β → Prop}
    (hf : ∀ a, x = .ok a → Asks server P (f a) Q s) : Asks server P ((lift x).bind f) Q s := by
  cases x with
  | ok a => exact hf a rfl
  | error e => exact asks_throw

end Asks

end HiveChameleon.Lib.Prog
