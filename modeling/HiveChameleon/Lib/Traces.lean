import HiveChameleon.Lib.Prog

/-!
# Lib.Traces — the requests of a program, in order, and how it ends

`Ends p trace outcome`: under some answers the program makes the requests `trace`, one after the other,
and ends with `outcome`.  The rules follow the program text; they turn a run of a composed program into
runs of its parts, and so do the rules for a program that returns alone with a server.
-/

namespace HiveChameleon.Lib.Prog

variable {Req : Type} {Resp : Req → Type} {ε α β : Type}

inductive Ends : Prog Req Resp ε α → List Req → Except ε α → Prop
  | ret (a : α) : Ends (ret a) [] (.ok a)
  | throw (e : ε) : Ends (throw e) [] (.error e)
  | call {q : Req} {k : Except ε (Resp q) → Prog Req Resp ε α} {trace : List Req} {outcome : Except ε α}
      (r : Except ε (Resp q)) (h : Ends (k r) trace outcome) : Ends (call q k) (q :: trace) outcome

variable {q : Req} {trace : List Req} {p : Prog Req Resp ε α}

@[simp] theorem ends_ret {a : α} {outcome : Except ε α} :
    (ret a : Prog Req Resp ε α).Ends trace outcome ↔ trace = [] ∧ outcome = .ok a := by
  constructor
  · intro h
    cases h
    exact ⟨rfl, rfl⟩
  · rintro ⟨rfl, rfl⟩
    exact .ret a

@[simp] theorem ends_throw {e : ε} {outcome : Except ε α} :
    (throw e : Prog Req Resp ε α).Ends trace outcome ↔ trace = [] ∧ outcome = .error e := by
  constructor
  · intro h
    cases h
    exact ⟨rfl, rfl⟩
  · rintro ⟨rfl, rfl⟩
    exact .throw e

theorem ends_call {k : Except ε (Resp q) → Prog Req Resp ε α} {outcome : Except ε α} :
    (call q k).Ends trace outcome ↔ ∃ r rest, trace = q :: rest ∧ (k r).Ends rest outcome := by
  constructor
  · intro h
    cases h with
    | call r h => exact ⟨r, _, rfl, h⟩
  · rintro ⟨r, rest, rfl, h⟩
    exact .call r h

@[simp] theorem ends_lift {x outcome : Except ε α} :
    (lift x : Prog Req Resp ε α).Ends trace outcome ↔ trace = [] ∧ outcome = x := by
  cases x with
  | ok a => exact ends_ret
  | error e => exact ends_throw

/-- Goes on with the result of a program, be it an error. -/
def attempt : Prog Req Resp ε α → (Except ε α → Prog Req Resp ε β) → Prog Req Resp ε β
  | ret a, f => f (.ok a)
  | throw e, f => f (.error e)
  | call q k, f => call q fun r => (k r).attempt f

theorem bind_eq_attempt (p : Prog Req Resp ε α) (f : α → Prog Req Resp ε β) :
    p.bind f = p.attempt fun
      | .ok a => f a
      | .error e => throw e := by
  induction p with
  | ret a => rfl
  | throw e => rfl
  | call q k ih => exact congrArg (call q) (funext ih)

theorem orElse_eq_attempt (p : Prog Req Resp ε α) (h : ε → Prog Req Resp ε α) :
    p.orElse h = p.attempt fun
      | .ok a => ret a
      | .error e => h e := by
  induction p with
  | ret a => rfl
  | throw e => rfl
  | call q k ih => exact congrArg (call q) (funext ih)

/-- **Two programs after one another**: the requests of the first come before those of the second. -/
theorem ends_attempt {f : Except ε α → Prog Req Resp ε β} {outcome : Except ε β} :
    (p.attempt f).Ends trace outcome ↔
      ∃ r before after, trace = before ++ after ∧ p.Ends before r ∧ (f r).Ends after outcome := by
  induction p generalizing trace with
  | ret a =>
    constructor
    · exact fun h => ⟨.ok a, [], trace, rfl, .ret a, h⟩
    · rintro ⟨r, before, after, rfl, hend, h⟩
      obtain ⟨rfl, rfl⟩ := ends_ret.mp hend
      exact h
  | throw e =>
    constructor
    · exact fun h => ⟨.error e, [], trace, rfl, .throw e, h⟩
    · rintro ⟨r, before, after, rfl, hend, h⟩
      obtain ⟨rfl, rfl⟩ := ends_throw.mp hend
      exact h
  | call q k ih =>
    constructor
    · intro h
      obtain ⟨answer, rest, rfl, hrest⟩ := ends_call.mp h
      obtain ⟨r, before, after, rfl, hend, hafter⟩ := (ih answer).mp hrest
      exact ⟨r, q :: before, after, rfl, .call answer hend, hafter⟩
    · rintro ⟨r, before, after, rfl, hend, h⟩
      obtain ⟨answer, rest, rfl, hrest⟩ := ends_call.mp hend
      exact .call answer ((ih answer).mpr ⟨r, rest, after, rfl, hrest, h⟩)

/-- **Sequence**: the first program throws, or the second goes on where it returned. -/
theorem ends_bind {f : α → Prog Req Resp ε β} {outcome : Except ε β} :
    (p.bind f).Ends trace outcome ↔
      (∃ e, p.Ends trace (.error e) ∧ outcome = .error e) ∨
        ∃ a before after, trace = before ++ after ∧ p.Ends before (.ok a) ∧ (f a).Ends after outcome := by
  rw [bind_eq_attempt, ends_attempt]
  constructor
  · rintro ⟨e | a, before, after, rfl, hend, h⟩
    · obtain ⟨rfl, rfl⟩ := ends_throw.mp h
      rw [List.append_nil]
      exact .inl ⟨e, hend, rfl⟩
    · exact .inr ⟨a, before, after, rfl, hend, h⟩
  · rintro (⟨e, hend, rfl⟩ | ⟨a, before, after, rfl, hend, h⟩)
    · exact ⟨.error e, trace, [], (List.append_nil _).symm, hend, .throw e⟩
    · exact ⟨.ok a, before, after, rfl, hend, h⟩

/-- `try p catch h`: the program returns, or the handler goes on where it threw. -/
theorem ends_orElse {h : ε → Prog Req Resp ε α} {outcome : Except ε α} :
    (p.orElse h).Ends trace outcome ↔
      (∃ a, p.Ends trace (.ok a) ∧ outcome = .ok a) ∨
        ∃ e before after, trace = before ++ after ∧ p.Ends before (.error e) ∧ (h e).Ends after outcome := by
  rw [orElse_eq_attempt, ends_attempt]
  constructor
  · rintro ⟨e | a, before, after, rfl, hend, hafter⟩
    · exact .inr ⟨e, before, after, rfl, hend, hafter⟩
    · obtain ⟨rfl, rfl⟩ := ends_ret.mp hafter
      rw [List.append_nil]
      exact .inl ⟨a, hend, rfl⟩
  · rintro (⟨a, hend, rfl⟩ | ⟨e, before, after, rfl, hend, hafter⟩)
    · exact ⟨.ok a, trace, [], (List.append_nil _).symm, hend, .ret a⟩
    · exact ⟨.error e, before, after, rfl, hend, hafter⟩

theorem ends_request {outcome : Except ε (Resp q)} :
    (request q : Prog Req Resp ε (Resp q)).Ends trace outcome ↔ trace = [q] := by
  rw [request, ends_call]
  constructor
  · rintro ⟨r, rest, rfl, h⟩
    cases r with
    | ok a =>
      obtain ⟨rfl, -⟩ := ends_ret.mp h
      rfl
    | error e =>
      obtain ⟨rfl, -⟩ := ends_throw.mp h
      rfl
  · rintro rfl
    refine ⟨outcome, [], rfl, ?_⟩
    cases outcome with
    | ok a => exact .ret a
    | error e => exact .throw e

/-! ### A program that returns alone with a server -/

section Exec

variable {σ : Type} {server : (q : Req) → σ → Except ε (Resp q) × σ} {s s' : σ}

/-- How a program ends with a server is one of the ways it can end. -/
theorem ends_exec : ∃ trace, p.Ends trace (p.exec server s).1 := by
  induction p generalizing s with
  | ret a => exact ⟨[], .ret a⟩
  | throw e => exact ⟨[], .throw e⟩
  | call q k ih =>
    obtain ⟨trace, h⟩ := ih (server q s).1
    exact ⟨q :: trace, .call _ h⟩

theorem exec_attempt {f : Except ε α → Prog Req Resp ε β} :
    (p.attempt f).exec server s = (f (p.exec server s).1).exec server (p.exec server s).2 := by
  induction p generalizing s with
  | ret a => rfl
  | throw e => rfl
  | call q k ih => exact ih (server q s).1

theorem exec_bind_eq_ok {f : α → Prog Req Resp ε β} {b : β} :
    (p.bind f).exec server s = (.ok b, s') ↔
      ∃ a m, p.exec server s = (.ok a, m) ∧ (f a).exec server m = (.ok b, s') := by
  rw [bind_eq_attempt, exec_attempt]
  rcases p.exec server s with ⟨e | a, m⟩
  · simp [exec]
  · simp

theorem exec_lift_eq_ok {x : Except ε α} {a : α} :
    (lift x : Prog Req Resp ε α).exec server s = (.ok a, s') ↔ x = .ok a ∧ s = s' := by
  cases x with
  | ok b => simp [lift]
  | error e => simp [lift]

theorem exec_request : (request q : Prog Req Resp ε (Resp q)).exec server s = server q s := by
  rw [request, exec]
  rcases server q s with ⟨r | r, m⟩ <;> rfl

theorem exec_request_bind_eq_ok {f : Resp q → Prog Req Resp ε β} {b : β} :
    ((request q).bind f).exec server s = (.ok b, s') ↔
      ∃ a m, server q s = (.ok a, m) ∧ (f a).exec server m = (.ok b, s') := by
  rw [exec_bind_eq_ok, exec_request]

/-- Requests that leave the state alone. -/
theorem exec_only {P : Req → Prop} (hP : ∀ q s, P q → (server q s).2 = s) (h : Only P p) :
    (p.exec server s).2 = s := by
  induction p with
  | ret a => rfl
  | throw e => rfl
  | call q k ih =>
    obtain ⟨hq, hk⟩ := only_call.mp h
    show ((k (server q s).1).exec server (server q s).2).2 = s
    rw [hP q s hq]
    exact ih (server q s).1 (hk (server q s).1)

end Exec

end HiveChameleon.Lib.Prog
