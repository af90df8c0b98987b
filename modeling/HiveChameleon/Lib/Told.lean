import HiveChameleon.Lib.Prog

/-!
# Lib.Told — requests that earlier answers account for

A program knows of its environment what it was told: the answers to its own requests.  `Informed K`
is the safety assertion whose state is that knowledge and whose guarantee is `K`: each request is one
that the answers before it account for.  In a system of such programs every request of a run is then
accounted for by answers of the run before it, however the programs interleave and restart.
-/

namespace HiveChameleon.Lib

variable {Req : Type} {Resp : Req → Type} {ε α β σ ι : Type}

/-- A record of answers. -/
abbrev Told (Req : Type) (Resp : Req → Type) (ε : Type) := (q : Req) → Except ε (Resp q) → Prop

namespace Told

/-- Nothing was answered yet. -/
def nothing : Told Req Resp ε := fun _ _ => False

/-- The record with one more answer. -/
inductive Add (known : Told Req Resp ε) (q : Req) (r : Except ε (Resp q)) : Told Req Resp ε where
  | old {q' : Req} {r' : Except ε (Resp q')} (h : known q' r') : Add known q r q' r'
  | new : Add known q r q r

/-- Everything in the first record is in the second. -/
def Le (known known' : Told Req Resp ε) : Prop := ∀ q r, known q r → known' q r

theorem Le.refl (known : Told Req Resp ε) : Le known known := fun _ _ h => h

theorem Le.trans {known known' known'' : Told Req Resp ε} (h : Le known known')
    (h' : Le known' known'') : Le known known'' := fun q r hr => h' q r (h q r hr)

theorem le_add {known : Told Req Resp ε} {q : Req} {r : Except ε (Resp q)} :
    Le known (Add known q r) := fun _ _ h => .old h

theorem Le.add {known known' : Told Req Resp ε} (h : Le known known') {q : Req}
    {r : Except ε (Resp q)} : Le (Add known q r) (Add known' q r) := by
  intro q' r' hr
  cases hr with
  | old hold => exact .old (h q' r' hold)
  | new => exact .new

/-- The request that is answered next. -/
def Hears (q : Req) (known : Told Req Resp ε) (r : Except ε (Resp q)) (known' : Told Req Resp ε) :
    Prop := known' = Add known q r

end Told

/-- A property of requests that more answers do not take away. -/
def Grows (K : Told Req Resp ε → Req → Prop) : Prop :=
  ∀ known known' q, Told.Le known known' → K known q → K known' q

/-- **Informed programs**: each request is accounted for by what is known when it is made. -/
abbrev Informed (K : Told Req Resp ε → Req → Prop) (p : Prog Req Resp ε α)
    (Q : Except ε α → Told Req Resp ε → Prop) (known : Told Req Resp ε) : Prop :=
  p.Safe Eq Told.Hears (fun q known _ => K known q) Q known

/-- An informed program that ends with more knowledge, and with `P` of what it returns. -/
abbrev Learns (K : Told Req Resp ε → Req → Prop) (p : Prog Req Resp ε α)
    (P : α → Told Req Resp ε → Prop) (known : Told Req Resp ε) : Prop :=
  Informed K p (fun r known' => Told.Le known known' ∧ ∀ a, r = .ok a → P a known') known

section Rules

variable {K : Told Req Resp ε → Req → Prop} {known known' : Told Req Resp ε}

theorem learns_ret {a : α} {P : α → Told Req Resp ε → Prop} (h : P a known) :
    Learns K (.ret a : Prog Req Resp ε α) P known := by
  refine ⟨Told.Le.refl known, ?_⟩
  rintro _ ⟨⟩
  exact h

theorem learns_throw {e : ε} {P : α → Told Req Resp ε → Prop} :
    Learns K (.throw e : Prog Req Resp ε α) P known :=
  ⟨Told.Le.refl known, nofun⟩

theorem Learns.mono {p : Prog Req Resp ε α} {P P' : α → Told Req Resp ε → Prop}
    (h : Learns K p P known) (hP : ∀ a known', Told.Le known known' → P a known' → P' a known') :
    Learns K p P' known :=
  Prog.safe_mono h fun _ _ hr => ⟨hr.1, fun a ha => hP a _ hr.1 (hr.2 a ha)⟩

theorem learns_bind {p : Prog Req Resp ε α} {f : α → Prog Req Resp ε β}
    {P : α → Told Req Resp ε → Prop} {P' : β → Told Req Resp ε → Prop} (hp : Learns K p P known)
    (hf : ∀ a known', Told.Le known known' → P a known' → Learns K (f a) P' known') :
    Learns K (p.bind f) P' known := by
  refine Prog.safe_bind (Prog.safe_mono hp ?_)
  rintro (e | a) known' ⟨hle, hP⟩
  · exact ⟨hle, nofun⟩
  · exact Prog.safe_mono (hf a known' hle (hP a rfl)) fun _ _ hr => ⟨hle.trans hr.1, hr.2⟩

theorem learns_request {q : Req} {f : Resp q → Prog Req Resp ε α} {P : α → Told Req Resp ε → Prop}
    (hq : K known q) (hf : ∀ a, Learns K (f a) P (Told.Add known q (.ok a))) :
    Learns K ((Prog.request q).bind f) P known := by
  refine Prog.safe_request_bind ?_
  rintro _ rfl r _ rfl
  refine ⟨hq, ?_⟩
  cases r with
  | ok a => exact Prog.safe_mono (hf a) fun _ _ hr => ⟨Told.le_add.trans hr.1, hr.2⟩
  | error e => exact ⟨Told.le_add, nofun⟩

theorem learns_ask {q : Req} (hq : K known q) :
    Learns K (Prog.request q : Prog Req Resp ε (Resp q)) (fun a known' => known' q (.ok a)) known := by
  refine Prog.safe_request ?_
  rintro _ rfl r _ rfl
  refine ⟨hq, Told.le_add, ?_⟩
  rintro a rfl
  exact .new

theorem learns_lift {x : Except ε α} {f : α → Prog Req Resp ε β} {P : β → Told Req Resp ε → Prop}
    (hf : ∀ a, x = .ok a → Learns K (f a) P known) : Learns K ((Prog.lift x).bind f) P known := by
  cases x with
  | ok a => exact hf a rfl
  | error e => exact learns_throw

theorem informed_le (hK : Grows K) {p : Prog Req Resp ε α}
    (h : Informed K p (fun _ _ => True) known) (hle : Told.Le known known') :
    Informed K p (fun _ _ => True) known' := by
  induction p generalizing known known' with
  | ret a => trivial
  | throw e => trivial
  | call q k ih =>
    rintro _ rfl r _ rfl
    obtain ⟨hq, hk⟩ := h known rfl r _ rfl
    exact ⟨hK _ _ _ hle hq, ih r hk hle.add⟩

end Rules

/-! ### Systems -/

section Systems

/-- The answers of a run. -/
def toldIn (ts : List (Transition (Sys Req Resp ε α σ ι) (SysLabel Req Resp ε ι))) :
    Told Req Resp ε := fun q r => ∃ t ∈ ts, ∃ i, t.label = .answer i q r

theorem toldIn_append {ts us : List (Transition (Sys Req Resp ε α σ ι) (SysLabel Req Resp ε ι))} :
    Told.Le (toldIn ts) (toldIn (ts ++ us)) := by
  rintro q r ⟨t, ht, hlabel⟩
  exact ⟨t, List.mem_append_left us ht, hlabel⟩

variable [DecidableEq ι] {E : σ → σ → Prop} {H : (q : Req) → σ → Except ε (Resp q) → σ → Prop}
variable {main : ι → Prog Req Resp ε α} {K : Told Req Resp ε → Req → Prop}

/-- **Every request of a run is accounted for** by the answers before it, and every program stays
informed by the answers of the run. -/
theorem informed_of_run (hK : Grows K)
    (hmain : ∀ i, Informed K (main i) (fun _ _ => True) Told.nothing)
    {S S' : Sys Req Resp ε α σ ι}
    {ts : List (Transition (Sys Req Resp ε α σ ι) (SysLabel Req Resp ε ι))}
    (hS : ∀ i, Informed K (S.procs i) (fun _ _ => True) Told.nothing)
    (hrun : Run (SysStep E H main) S ts S') :
    ∀ i, Informed K (S'.procs i) (fun _ _ => True) (toldIn ts) := by
  have hnothing : ∀ known : Told Req Resp ε, Told.Le Told.nothing known :=
    fun _ _ _ h => h.elim
  induction hrun with
  | refl => exact fun i => informed_le hK (hS i) (hnothing _)
  | @snoc m m' ts l hr hl ih =>
    intro j
    have hgrow : Informed K (m.procs j) (fun _ _ => True) (toldIn (ts ++ [⟨m, l, m'⟩])) :=
      informed_le hK (ih j) toldIn_append
    cases hl with
    | env hE => exact hgrow
    | @answer s s' ps i q k r hp hH =>
      by_cases hij : j = i
      · subst hij
        have hcall : Informed K (.call q k) (fun _ _ => True) (toldIn ts) := hp ▸ ih j
        show Informed K (Function.update ps j (k r) j) _ _
        rw [Function.update_self]
        refine informed_le hK (hcall _ rfl r _ rfl).2 ?_
        intro q' r' hr'
        cases hr' with
        | old hold => exact toldIn_append _ _ hold
        | new => exact ⟨_, List.mem_append_right ts (List.mem_singleton_self _), j, rfl⟩
      · show Informed K (Function.update ps i (k r) j) _ _
        rw [Function.update_of_ne hij]
        exact hgrow
    | @restart s ps i =>
      by_cases hij : j = i
      · subst hij
        show Informed K (Function.update ps j (main j) j) _ _
        rw [Function.update_self]
        exact informed_le hK (hmain j) (hnothing _)
      · show Informed K (Function.update ps i (main i) j) _ _
        rw [Function.update_of_ne hij]
        exact hgrow

theorem informed_step {S S' : Sys Req Resp ε α σ ι}
    {ts : List (Transition (Sys Req Resp ε α σ ι) (SysLabel Req Resp ε ι))} {i : ι} {q : Req}
    {r : Except ε (Resp q)} (h : ∀ i, Informed K (S.procs i) (fun _ _ => True) (toldIn ts))
    (hstep : SysStep E H main S (.answer i q r) S') : K (toldIn ts) q := by
  cases hstep with
  | @answer s s' ps _ _ k _ hp hH =>
    have hcall : Informed K (.call q k) (fun _ _ => True) (toldIn ts) := hp ▸ h i
    exact (hcall _ rfl r _ rfl).1

end Systems

end HiveChameleon.Lib
