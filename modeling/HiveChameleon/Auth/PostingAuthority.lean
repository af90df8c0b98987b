import HiveChameleon.Auth.Login
import Mathlib.Algebra.Order.BigOperators.Group.List

/-!
# Auth.PostingAuthority — the posting authority check against Hive's rule

Hive adds the weights of the matching keys and of the satisfied nested accounts.  The check takes a
nested account only when its weight reaches the threshold alone, so it accepts nothing that Hive would
refuse, and it refuses what only a sum reaches.  Its set of visited accounts cuts no search short: an
account that is met again could have been satisfied before.
-/

namespace HiveChameleon.Auth

open Lib

/-- The accounts of a chain that stands still. -/
abbrev AuthorityGraph := String → Option HiveAccount

/-- A node that answers `fetchAccount` from a graph. -/
def serveAccount (graph : AuthorityGraph) (accountName : String) (s : Unit) :
    Except HiveUnavailable (Option HiveAccount) × Unit := (.ok (graph accountName), s)

/-- What a check answers over a graph. -/
def checkOver (graph : AuthorityGraph) (check : AccountCheck Bool) : Except HiveUnavailable Bool :=
  (check.exec (serveAccount graph) ()).1

/-! ### The rules -/

/-- **Hive's rule**: the weights of the key and of the nested accounts that it satisfies reach the
threshold, `levels` accounts deep. -/
def meetsAuthority (graph : AuthorityGraph) (key : String) : ℕ → String → Bool
  | 0, _ => false
  | levels + 1, accountName =>
    match graph accountName with
    | none => false
    | some account =>
      account.weightThreshold ≤ directWeight key account +
        ((account.accountAuths.filter fun auth => meetsAuthority graph key levels auth.1).map
          fun auth => (auth.2 : ℕ)).sum

/-- The rule of the check: the key reaches the threshold, or one nested account does so alone. -/
def meetsAlone (graph : AuthorityGraph) (key : String) : ℕ → String → Bool
  | 0, _ => false
  | levels + 1, accountName =>
    match graph accountName with
    | none => false
    | some account =>
      account.weightThreshold ≤ directWeight key account ||
        account.accountAuths.any fun auth =>
          account.weightThreshold ≤ auth.2 && meetsAlone graph key levels auth.1

section Rules

variable {graph : AuthorityGraph} {key accountName : String} {levels : ℕ}

theorem meetsAlone_succ : meetsAlone graph key (levels + 1) accountName = true ↔
    ∃ account, graph accountName = some account ∧ (account.weightThreshold ≤ directWeight key account ∨
      ∃ auth ∈ account.accountAuths, account.weightThreshold ≤ auth.2 ∧
        meetsAlone graph key levels auth.1 = true) := by
  rw [meetsAlone]
  cases graph accountName with
  | none => simp
  | some account => simp

theorem meetsAuthority_succ : meetsAuthority graph key (levels + 1) accountName = true ↔
    ∃ account, graph accountName = some account ∧ account.weightThreshold ≤ directWeight key account +
      ((account.accountAuths.filter fun auth => meetsAuthority graph key levels auth.1).map
        fun auth => (auth.2 : ℕ)).sum := by
  rw [meetsAuthority]
  cases graph accountName with
  | none => simp
  | some account => simp

theorem meetsAlone_mono (h : meetsAlone graph key levels accountName = true) :
    meetsAlone graph key (levels + 1) accountName = true := by
  induction levels generalizing accountName with
  | zero => cases h
  | succ levels ih =>
    obtain ⟨account, hfetch, hreach⟩ := meetsAlone_succ.mp h
    refine meetsAlone_succ.mpr ⟨account, hfetch, ?_⟩
    rcases hreach with hkey | ⟨auth, hauth, hweight, hnested⟩
    · exact .inl hkey
    · exact .inr ⟨auth, hauth, hweight, ih hnested⟩

/-- **No false accept**: what the check accepts, Hive accepts. -/
theorem meetsAuthority_of_meetsAlone (h : meetsAlone graph key levels accountName = true) :
    meetsAuthority graph key levels accountName = true := by
  induction levels generalizing accountName with
  | zero => cases h
  | succ levels ih =>
    obtain ⟨account, hfetch, hreach⟩ := meetsAlone_succ.mp h
    refine meetsAuthority_succ.mpr ⟨account, hfetch, ?_⟩
    rcases hreach with hkey | ⟨auth, hauth, hweight, hnested⟩
    · omega
    · have hmem : (auth.2 : ℕ) ∈ (account.accountAuths.filter fun auth =>
          meetsAuthority graph key levels auth.1).map fun auth => (auth.2 : ℕ) :=
        List.mem_map_of_mem (f := fun auth : String × ℕ+ => (auth.2 : ℕ))
          (List.mem_filter.mpr ⟨hauth, ih hnested⟩)
      have hsum := List.le_sum_of_mem hmem
      have hthreshold : (account.weightThreshold : ℕ) ≤ auth.2 := PNat.coe_le_coe _ _ |>.mpr hweight
      omega

end Rules

/-! ### The check -/

/-- What the check finds when it leaves out the accounts that it has visited. -/
def searchAlone (graph : AuthorityGraph) (key : String) : ℕ → List String → String → Bool
  | 0, _, _ => false
  | levels + 1, visited, accountName =>
    if accountName ∈ visited then false
    else
      match graph accountName with
      | none => false
      | some account =>
        account.weightThreshold ≤ directWeight key account ||
          account.accountAuths.any fun auth =>
            account.weightThreshold ≤ auth.2 && searchAlone graph key levels (accountName :: visited) auth.1

section Check

variable {graph : AuthorityGraph} {key : String}

theorem checkOver_anyNested {check : String → AccountCheck Bool} {found : String → Bool}
    (hcheck : ∀ name, checkOver graph (check name) = .ok (found name)) (threshold : ℕ+)
    (auths : List (String × ℕ+)) :
    checkOver graph (anyNested check threshold auths) =
      .ok (auths.any fun auth => threshold ≤ auth.2 && found auth.1) := by
  induction auths with
  | nil => rfl
  | cons auth auths ih =>
    rw [anyNested, List.any_cons]
    by_cases hweight : auth.2 ≥ threshold
    · have hfirst : (check auth.1).exec (serveAccount graph) () = (.ok (found auth.1), ()) :=
        Prod.ext (hcheck auth.1) rfl
      rw [if_pos hweight, checkOver, Prog.bind_def, Prog.exec_bind_ok hfirst]
      cases hfound : found auth.1 with
      | true => simp [hweight]
      | false =>
        have hrest : checkOver graph (anyNested check threshold auths) = _ := ih
        simpa [checkOver] using hrest
    · rw [if_neg hweight, ih]
      simp [hweight]

theorem checkOver_search (levels : ℕ) (visited : List String) (accountName : String) :
    checkOver graph (keyCanSatisfyPostingAuthority key levels visited accountName) =
      .ok (searchAlone graph key levels visited accountName) := by
  induction levels generalizing visited accountName with
  | zero => rfl
  | succ levels ih =>
    rw [keyCanSatisfyPostingAuthority, searchAlone]
    by_cases hvisited : accountName ∈ visited
    · rw [if_pos hvisited, if_pos hvisited]
      rfl
    · have hanswer : serveAccount graph accountName () = (.ok (graph accountName), ()) := rfl
      rw [if_neg hvisited, if_neg hvisited, checkOver, Prog.bind_def, Prog.exec_request_ok hanswer]
      cases hfetch : graph accountName with
      | none => rfl
      | some account =>
        dsimp only
        by_cases hdirect : directWeight key account ≥ account.weightThreshold
        · rw [if_pos hdirect]
          simp [hdirect]
        · rw [if_neg hdirect]
          have hnested := checkOver_anyNested (ih (accountName :: visited)) account.weightThreshold
            account.accountAuths
          simpa [checkOver, hdirect] using hnested

theorem meetsAlone_of_searchAlone {levels : ℕ} {visited : List String} {accountName : String}
    (h : searchAlone graph key levels visited accountName = true) :
    meetsAlone graph key levels accountName = true := by
  induction levels generalizing visited accountName with
  | zero => cases h
  | succ levels ih =>
    rw [searchAlone] at h
    split at h
    · cases h
    · cases hfetch : graph accountName with
      | none =>
        rw [hfetch] at h
        cases h
      | some account =>
        rw [hfetch] at h
        refine meetsAlone_succ.mpr ⟨account, hfetch, ?_⟩
        rcases (Bool.or_eq_true _ _).mp h with hkey | hany
        · exact .inl (of_decide_eq_true hkey)
        · obtain ⟨auth, hauth, hboth⟩ := List.any_eq_true.mp hany
          obtain ⟨hweight, hnested⟩ := (Bool.and_eq_true _ _).mp hboth
          exact .inr ⟨auth, hauth, of_decide_eq_true hweight, ih hnested⟩

/-- **Visited accounts cost nothing**: an account that some levels satisfy is found, as long as these
levels satisfy none of the visited ones.  The least such number of levels is the one to follow. -/
theorem searchAlone_of_meetsAlone {enough levels : ℕ} {visited : List String} {accountName : String}
    (h : meetsAlone graph key enough accountName = true)
    (hvisited : ∀ name ∈ visited, meetsAlone graph key enough name ≠ true) (hlevels : enough ≤ levels) :
    searchAlone graph key levels visited accountName = true := by
  induction enough generalizing levels visited accountName with
  | zero => cases h
  | succ enough ih =>
    by_cases hfewer : meetsAlone graph key enough accountName = true
    · exact ih hfewer (fun name hname hmeets => hvisited name hname (meetsAlone_mono hmeets)) (by omega)
    · obtain ⟨levels, rfl⟩ := Nat.exists_eq_add_of_le' hlevels
      obtain ⟨account, hfetch, hreach⟩ := meetsAlone_succ.mp h
      have hnew : accountName ∉ visited := fun hmem => hvisited accountName hmem h
      rw [← Nat.add_assoc, searchAlone, if_neg hnew, hfetch]
      refine (Bool.or_eq_true _ _).mpr ?_
      rcases hreach with hkey | ⟨auth, hauth, hweight, hnested⟩
      · exact .inl (decide_eq_true hkey)
      · -- the account itself needs more levels than its nested one
        have hpath : ∀ name ∈ accountName :: visited, meetsAlone graph key enough name ≠ true := by
          intro name hname hmeets
          rcases List.mem_cons.mp hname with rfl | hname
          · exact hfewer hmeets
          · exact hvisited name hname (meetsAlone_mono hmeets)
        have hfound : searchAlone graph key (levels + enough) (accountName :: visited) auth.1 = true :=
          ih hnested hpath (by omega)
        exact .inr (List.any_eq_true.mpr ⟨auth, hauth,
          (Bool.and_eq_true _ _).mpr ⟨decide_eq_true hweight, hfound⟩⟩)

end Check

/-- **The check over every graph**: it answers, with the rule that wants one entry to reach the threshold
alone, and so it never accepts what Hive's rule refuses. -/
theorem keyCanSatisfy_eq (graph : AuthorityGraph) (key accountName : String) :
    checkOver graph (keyCanSatisfyPostingAuthority key 3 [] accountName) =
        .ok (meetsAlone graph key 3 accountName) ∧
      (meetsAlone graph key 3 accountName = true → meetsAuthority graph key 3 accountName = true) := by
  refine ⟨?_, meetsAuthority_of_meetsAlone⟩
  rw [checkOver_search, Except.ok.injEq, Bool.eq_iff_iff]
  constructor
  · exact meetsAlone_of_searchAlone
  · intro h
    exact searchAlone_of_meetsAlone h (fun name hname => absurd hname List.not_mem_nil) le_rfl

/-- The key and an account that it controls, each of them half of a threshold. -/
def halves : AuthorityGraph := fun accountName =>
  if accountName = "alice" then some ⟨[("bob", 1)], [("STM-key", 1)], 2⟩
  else if accountName = "bob" then some ⟨[], [("STM-key", 1)], 1⟩
  else none

/-- Hive adds the two halves, and the check does not. -/
theorem keyCanSatisfy_refuses_sum :
    ¬ (∀ (graph : AuthorityGraph) (key accountName : String),
        checkOver graph (keyCanSatisfyPostingAuthority key 3 [] accountName) =
          .ok (meetsAuthority graph key 3 accountName)) ∧
      checkOver halves (keyCanSatisfyPostingAuthority "STM-key" 3 [] "alice") = .ok false ∧
      meetsAuthority halves "STM-key" 3 "alice" = true := by
  have hrefused : checkOver halves (keyCanSatisfyPostingAuthority "STM-key" 3 [] "alice") = .ok false := by
    decide
  have haccepted : meetsAuthority halves "STM-key" 3 "alice" = true := by decide
  refine ⟨fun hall => ?_, hrefused, haccepted⟩
  have hboth := (hall halves "STM-key" "alice").symm.trans hrefused
  rw [haccepted] at hboth
  exact absurd (Except.ok.inj hboth) (by decide)

end HiveChameleon.Auth
