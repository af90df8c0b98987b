import Mathlib.Data.List.Basic
import Mathlib.Data.List.Nodup

/-!
# Lib.Succession — records that supersede one another, one after the other

Each record has an id and names the id that it supersedes.  From a first id on, a list of records is
linked when each supersedes the one before it.  When no id comes twice, the linked list is the only
one with its members, no two records supersede the same id, and a walk from the first id that looks
up the successor of each id goes through the whole list.  Records and ids are parameters.
-/

namespace HiveChameleon.Lib

/-- How records of type `C` name themselves and what they supersede. -/
structure Succession (C I : Type) where
  id : C → I
  supersedes : C → I

namespace Succession

variable {C I : Type} (L : Succession C I)

/-- Each record supersedes the one before it, and the first one supersedes `first`. -/
def Linked : I → List C → Prop
  | _, [] => True
  | first, c :: cs => L.supersedes c = first ∧ Linked (L.id c) cs

/-- The id at the end of the list. -/
def last : I → List C → I
  | first, [] => first
  | _, c :: cs => last (L.id c) cs

/-- The records that a walk finds: at most `n`, each the successor of the one before. -/
def walk (successor : I → Option C) : ℕ → I → List C
  | 0, _ => []
  | n + 1, first =>
    match successor first with
    | none => []
    | some c => c :: walk successor n (L.id c)

variable {L} {first : I} {cs ds : List C}

theorem last_append (c : C) : ∀ {first : I} {cs : List C}, L.last first (cs ++ [c]) = L.id c
  | _, [] => rfl
  | _, d :: cs => by
    show L.last (L.id d) (cs ++ [c]) = L.id c
    exact last_append c

theorem linked_append {c : C} : ∀ {first : I} {cs : List C},
    L.Linked first (cs ++ [c]) ↔ L.Linked first cs ∧ L.supersedes c = L.last first cs
  | _, [] => by simp [Linked, last]
  | first, d :: cs => by
    show L.supersedes d = first ∧ L.Linked (L.id d) (cs ++ [c]) ↔
      (L.supersedes d = first ∧ L.Linked (L.id d) cs) ∧ L.supersedes c = L.last (L.id d) cs
    rw [linked_append, and_assoc]

theorem supersedes_eq : ∀ {first : I} {cs : List C}, L.Linked first cs →
    cs.map L.supersedes ++ [L.last first cs] = first :: cs.map L.id
  | _, [], _ => rfl
  | first, c :: cs, h => by
    obtain ⟨hfirst, hrest⟩ := h
    show L.supersedes c :: (cs.map L.supersedes ++ [L.last (L.id c) cs]) = first :: L.id c :: _
    rw [supersedes_eq hrest, hfirst]

/-- **No branching**: no two records supersede the same id. -/
theorem nodup_supersedes (h : L.Linked first cs) (hnodup : (first :: cs.map L.id).Nodup) :
    (cs.map L.supersedes).Nodup := by
  rw [← supersedes_eq h] at hnodup
  exact (List.nodup_append.mp hnodup).1

/-- **A walk goes through the whole list**, when it finds the successor of every id that has one. -/
theorem walk_eq {successor : I → Option C} : ∀ {first : I} {cs : List C}, L.Linked first cs →
    (∀ c ∈ cs, successor (L.supersedes c) = some c) → L.walk successor cs.length first = cs
  | _, [], _, _ => rfl
  | first, c :: cs, h, hsuccessor => by
    obtain ⟨hfirst, hrest⟩ := h
    have hnext : successor first = some c := by
      rw [← hfirst]
      exact hsuccessor c List.mem_cons_self
    show (match successor first with
      | none => []
      | some c => c :: L.walk successor cs.length (L.id c)) = c :: cs
    rw [hnext]
    show c :: L.walk successor cs.length (L.id c) = c :: cs
    rw [walk_eq hrest fun d hd => hsuccessor d (List.mem_cons_of_mem c hd)]

theorem linked_unique : ∀ {first : I} {cs ds : List C}, L.Linked first cs → L.Linked first ds →
    (first :: cs.map L.id).Nodup → (first :: ds.map L.id).Nodup → (∀ c, c ∈ cs ↔ c ∈ ds) → cs = ds
  | _, [], [], _, _, _, _, _ => rfl
  | _, [], d :: ds, _, _, _, _, hmem => absurd ((hmem d).mpr List.mem_cons_self) List.not_mem_nil
  | _, c :: cs, [], _, _, _, _, hmem => absurd ((hmem c).mp List.mem_cons_self) List.not_mem_nil
  | first, c :: cs, d :: ds, hcs, hds, hncs, hnds, hmem => by
    -- both lists begin with the record that supersedes `first`
    have hsame : c = d := by
      have hcd := (hmem d).mpr List.mem_cons_self
      have hnodup := nodup_supersedes hcs hncs
      rcases List.mem_cons.mp hcd with rfl | hin
      · rfl
      · have hin' : L.supersedes d ∈ cs.map L.supersedes := List.mem_map_of_mem hin
        rw [hds.1, ← hcs.1] at hin'
        exact absurd hin' (List.nodup_cons.mp hnodup).1
    subst hsame
    have hout : c ∉ cs := fun hin =>
      (List.nodup_cons.mp (List.nodup_cons.mp hncs).2).1 (List.mem_map_of_mem hin)
    have hout' : c ∉ ds := fun hin =>
      (List.nodup_cons.mp (List.nodup_cons.mp hnds).2).1 (List.mem_map_of_mem hin)
    have hrest : cs = ds := by
      refine linked_unique hcs.2 hds.2 (List.nodup_cons.mp hncs).2 (List.nodup_cons.mp hnds).2
        fun e => ⟨fun he => ?_, fun he => ?_⟩
      · rcases List.mem_cons.mp ((hmem e).mp (List.mem_cons_of_mem c he)) with rfl | he'
        · exact absurd he hout
        · exact he'
      · rcases List.mem_cons.mp ((hmem e).mpr (List.mem_cons_of_mem c he)) with rfl | he'
        · exact absurd he hout'
        · exact he'
    rw [hrest]

end Succession

end HiveChameleon.Lib
