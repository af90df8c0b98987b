import HiveChameleon.Nakama.LobbyStore
import HiveChameleon.Nakama.RoundInvariant
import Mathlib.Data.List.Perm.Subperm
import Mathlib.Data.List.Perm.Basic

/-!
# Nakama.RoundRoles — the roles and the slots of a round

What `selectRoundRoles` and `assignCasualHidingSlots` draw, whatever the random source yields, and
that `newCasualRoundState` takes every round with such roles, such slots and positive rules.
-/

namespace HiveChameleon.Nakama.Lobby

open Lib

/-! ### The shuffle -/

section Shuffle

variable {α : Type} {message : String}

theorem swap_perm (values : List α) (i j : ℕ) : (swap values i j).Perm values := by
  unfold swap
  cases hi : values[i]? with
  | none => exact .refl _
  | some a =>
    cases hj : values[j]? with
    | none => exact .refl _
    | some b =>
      obtain ⟨hilt, rfl⟩ := List.getElem?_eq_some_iff.mp hi
      obtain ⟨hjlt, rfl⟩ := List.getElem?_eq_some_iff.mp hj
      exact List.set_set_perm hilt hjlt

/-- **A shuffle permutes**, whatever the random source yields. -/
theorem shuffleFrom_perm : ∀ {index : ℕ} {values : List α} {random : Random}
    {drawn : List α × Random}, shuffleFrom message index values random = .ok drawn →
      drawn.1.Perm values
  | 0, values, random, drawn, h => by
    cases h
    exact .refl _
  | index + 1, values, random, drawn, h => by
    simp only [shuffleFrom, bind_eq_ok] at h
    obtain ⟨⟨selected, rest⟩, -, h⟩ := h
    exact (shuffleFrom_perm h).trans (swap_perm values (index + 1) selected)

theorem shuffleFrom_ok (message : String) : ∀ (index : ℕ) (values : List α) (random : Random),
    index ≤ random.length → ∃ drawn, shuffleFrom message index values random = .ok drawn ∧
      drawn.2.length + index = random.length
  | 0, values, random, _ => ⟨(values, random), rfl, rfl⟩
  | index + 1, values, random, h => by
    cases random with
    | nil => exact absurd h (Nat.not_succ_le_zero index)
    | cons k rest =>
      have hrest : index ≤ rest.length := Nat.le_of_succ_le_succ h
      obtain ⟨drawn, hdrawn, hlength⟩ :=
        shuffleFrom_ok message index (swap values (index + 1) (k % (index + 2))) rest hrest
      refine ⟨drawn, ?_, ?_⟩
      · rw [shuffleFrom]
        exact bind_eq_ok.mpr ⟨_, rfl, hdrawn⟩
      · rw [List.length_cons, ← hlength]
        omega

end Shuffle

/-! ### `selectRoundRoles` -/

/-- **The roles that are drawn**: every member once and in order, as many hunters as configured, and
another hunter than a volunteer only when every volunteer is one. -/
structure RolesDrawn (members nominations : List String) (hunterCount : ℤ)
    (assignments : List RoundRoleAssignment) : Prop where
  members : assignments.map (·.playerId) = members
  volunteers : ∀ a ∈ assignments, a.hunterVolunteer = decide (a.playerId ∈ nominations)
  roles : ∀ a ∈ assignments, a.role = .hider ∨ a.role = .hunter
  hunters : ((assignments.filter fun a => a.role = .hunter).length : ℤ) = hunterCount
  volunteersFirst : (∃ a ∈ assignments, a.role = .hunter ∧ a.playerId ∉ nominations) →
    ∀ a ∈ assignments, a.playerId ∈ nominations → a.role = .hunter
  unseated : ∀ a ∈ assignments, a.hidingSlot = 0

/-- The assignment of a member, once the hunters are chosen. -/
def roleOf (nominations hunters : List String) (playerId : String) : RoundRoleAssignment :=
  ⟨playerId, if playerId ∈ hunters then .hunter else .hider, playerId ∈ nominations, 0⟩

section Roles

variable {members nominations hunters : List String} {hunterCount : ℤ}

theorem roleOf_hunter {playerId : String} :
    (roleOf nominations hunters playerId).role = .hunter ↔ playerId ∈ hunters := by
  unfold roleOf
  by_cases h : playerId ∈ hunters
  · simp [h]
  · simp [h]

theorem length_hunters (hmembers : members.Nodup) (hhunters : hunters.Nodup)
    (hsub : hunters ⊆ members) :
    ((members.map (roleOf nominations hunters)).filter fun a => a.role = .hunter).length =
      hunters.length := by
  have hchosen : (members.filter fun p => decide (p ∈ hunters)).Perm hunters := by
    refine (List.perm_ext_iff_of_nodup (hmembers.filter _) hhunters).mpr fun p => ?_
    rw [List.mem_filter, decide_eq_true_eq]
    exact ⟨fun h => h.2, fun h => ⟨hsub h, h⟩⟩
  have hsame : (fun a : RoundRoleAssignment => decide (a.role = .hunter)) ∘
      roleOf nominations hunters = fun p => decide (p ∈ hunters) := by
    funext p
    rw [Function.comp_apply, decide_eq_decide]
    exact roleOf_hunter
  rw [List.filter_map, List.length_map, hsame]
  exact hchosen.length_eq

theorem rolesDrawn_of_candidates {volunteers others : List String} (hmembers : members.Nodup)
    (hcount : 1 ≤ hunterCount ∧ hunterCount < members.length)
    (hvolunteers : volunteers.Perm (members.filter fun p => p ∈ nominations))
    (hothers : others.Perm (members.filter fun p => p ∉ nominations)) :
    RolesDrawn members nominations hunterCount
      (members.map (roleOf nominations ((volunteers ++ others).take hunterCount.toNat))) := by
  have hcandidates : (volunteers ++ others).Perm members := by
    have hsplit := List.filter_append_perm (fun p : String => decide (p ∈ nominations)) members
    refine (hvolunteers.append hothers).trans ?_
    simpa only [decide_not] using hsplit
  have hnodup : (volunteers ++ others).Nodup := hcandidates.nodup_iff.mpr hmembers
  have hsub : (volunteers ++ others).take hunterCount.toNat ⊆ members := fun p hp =>
    hcandidates.subset (List.mem_of_mem_take hp)
  refine ⟨?_, fun a ha => ?_, fun a ha => ?_, ?_, ?_, fun a ha => ?_⟩
  · rw [List.map_map]
    exact List.map_id members
  · obtain ⟨p, -, rfl⟩ := List.mem_map.mp ha
    rfl
  · obtain ⟨p, -, rfl⟩ := List.mem_map.mp ha
    unfold roleOf
    by_cases h : p ∈ (volunteers ++ others).take hunterCount.toNat
    · simp [h]
    · simp [h]
  · rw [length_hunters hmembers (hnodup.sublist (List.take_sublist _ _)) hsub, List.length_take,
      hcandidates.length_eq]
    omega
  · rintro ⟨a, ha, hhunter, hother⟩ b hb hvolunteer
    obtain ⟨p, hp, rfl⟩ := List.mem_map.mp ha
    obtain ⟨q, hq, rfl⟩ := List.mem_map.mp hb
    have hchosen := roleOf_hunter.mp hhunter
    refine roleOf_hunter.mpr ?_
    -- a hunter beyond the volunteers means that all of them were taken
    have hq' : q ∈ volunteers :=
      hvolunteers.mem_iff.mpr (List.mem_filter.mpr ⟨hq, decide_eq_true hvolunteer⟩)
    have hnot : p ∉ volunteers := by
      intro h
      have := (List.mem_filter.mp (hvolunteers.mem_iff.mp h)).2
      exact hother (of_decide_eq_true this)
    rw [List.take_append, List.mem_append] at hchosen ⊢
    have hmore : volunteers.length ≤ hunterCount.toNat := by
      by_contra hless
      have hzero : hunterCount.toNat - volunteers.length = 0 := by omega
      rw [hzero, List.take_zero] at hchosen
      rcases hchosen with h | h
      · exact hnot (List.mem_of_mem_take h)
      · exact absurd h List.not_mem_nil
    rw [List.take_of_length_le hmore]
    exact .inl hq'
  · obtain ⟨p, -, rfl⟩ := List.mem_map.mp ha
    rfl

theorem checkMembers_eq_ok : ∀ {seen members : List String}, checkMembers seen members = .ok () ↔
    (∀ p ∈ members, p ≠ "") ∧ members.Nodup ∧ ∀ p ∈ members, p ∉ seen
  | seen, [] => by simp [checkMembers]
  | seen, playerId :: members => by
    simp only [checkMembers, bind_eq_ok, exists_unit, require_eq_ok, checkMembers_eq_ok,
      List.nodup_cons, List.mem_cons, not_or, forall_eq_or_imp]
    constructor
    · rintro ⟨hname, hnew, hnames, hnodup, hrest⟩
      exact ⟨⟨hname, hnames⟩, ⟨fun hmem => (hrest playerId hmem).1 rfl, hnodup⟩, hnew,
        fun p hp => (hrest p hp).2⟩
    · rintro ⟨⟨hname, hnames⟩, ⟨honce, hnodup⟩, hnew, hrest⟩
      exact ⟨hname, hnew, hnames, hnodup, fun p hp => ⟨fun heq => honce (heq ▸ hp), hrest p hp⟩⟩

/-- What `selectRoundRoles` draws, whatever the random source yields. -/
theorem selectRoundRoles_spec {random : Random} {drawn : List RoundRoleAssignment × Random}
    (h : selectRoundRoles members nominations hunterCount random = .ok drawn) :
    (1 ≤ hunterCount ∧ hunterCount < members.length) ∧ (∀ p ∈ members, p ≠ "") ∧ members.Nodup ∧
      RolesDrawn members nominations hunterCount drawn.1 := by
  simp only [selectRoundRoles, bind_eq_ok, exists_unit, require_eq_ok, checkMembers_eq_ok,
    pure_eq_ok] at h
  obtain ⟨hcount, ⟨hnames, hnodup, -⟩, ⟨volunteers, random₁⟩, hvolunteers, ⟨others, random₂⟩,
    hothers, rfl⟩ := h
  refine ⟨hcount, hnames, hnodup, rolesDrawn_of_candidates hnodup hcount ?_ ?_⟩
  · exact (shuffleFrom_perm hvolunteers).trans (List.perm_insertionSort _ _)
  · exact (shuffleFrom_perm hothers).trans (List.perm_insertionSort _ _)

theorem selectRoundRoles_ok {random : Random} (hnodup : members.Nodup) (hnames : ∀ p ∈ members, p ≠ "")
    (hcount : 1 ≤ hunterCount ∧ hunterCount < members.length) (hrandom : members.length ≤ random.length) :
    ∃ drawn, selectRoundRoles members nominations hunterCount random = .ok drawn ∧
      random.length ≤ drawn.2.length + members.length := by
  have hsplit := (List.filter_append_perm (fun p : String => decide (p ∈ nominations)) members).length_eq
  simp only [List.length_append, ← decide_not] at hsplit
  have hfirst : ((members.filter fun p => p ∈ nominations).insertionSort (· ≤ ·)).length - 1 ≤
      random.length := by
    rw [List.length_insertionSort]
    omega
  obtain ⟨⟨volunteers, random₁⟩, hvolunteers, hused₁⟩ := shuffleFrom_ok
    "read role assignment randomness" _ _ _ hfirst
  rw [List.length_insertionSort] at hused₁
  dsimp only at hused₁
  have hsecond : ((members.filter fun p => p ∉ nominations).insertionSort (· ≤ ·)).length - 1 ≤
      random₁.length := by
    rw [List.length_insertionSort]
    omega
  obtain ⟨⟨others, random₂⟩, hothers, hused₂⟩ := shuffleFrom_ok
    "read role assignment randomness" _ _ _ hsecond
  rw [List.length_insertionSort] at hused₂
  refine ⟨_, bind_eq_ok.mpr ⟨(), require_eq_ok.mpr hcount, bind_eq_ok.mpr ⟨(),
    checkMembers_eq_ok.mpr ⟨hnames, hnodup, fun _ _ => List.not_mem_nil⟩, bind_eq_ok.mpr ⟨_,
    hvolunteers, bind_eq_ok.mpr ⟨_, hothers, rfl⟩⟩⟩⟩, ?_⟩
  dsimp only at hused₂ ⊢
  omega

end Roles

/-! ### `assignCasualHidingSlots` -/

/-- An assignment without its slot. -/
def unslotted (a : RoundRoleAssignment) : String × PlayerRole × Bool :=
  (a.playerId, a.role, a.hunterVolunteer)

/-- The hiders of a list of assignments. -/
def hiders (assignments : List RoundRoleAssignment) : List RoundRoleAssignment :=
  assignments.filter fun a => a.role = .hider

/-- **The slots that are drawn**: every hider gets a slot of its own within the slot count, the other
assignments stay as they are. -/
structure SlotsDrawn (assignments seated : List RoundRoleAssignment) (targetSlotCount : ℕ) : Prop where
  kept : seated.map unslotted = assignments.map unslotted
  distinct : ((hiders seated).map (·.hidingSlot)).Nodup
  range : ∀ a ∈ hiders seated, 1 ≤ a.hidingSlot ∧ a.hidingSlot ≤ targetSlotCount
  others : (seated.filter fun a => a.role ≠ .hider) = assignments.filter fun a => a.role ≠ .hider

section Slots

theorem seatHiders_hider {a : RoundRoleAssignment} (h : a.role = .hider)
    (assignments : List RoundRoleAssignment) (slot : ℤ) (slots : List ℤ) :
    seatHiders (a :: assignments) (slot :: slots) =
      { a with hidingSlot := slot } :: seatHiders assignments slots := by
  rw [seatHiders.eq_def]
  exact if_pos h

theorem seatHiders_unseated {a : RoundRoleAssignment} (h : a.role = .hider)
    (assignments : List RoundRoleAssignment) :
    seatHiders (a :: assignments) [] = a :: seatHiders assignments [] := by
  rw [seatHiders.eq_def]
  exact if_pos h

theorem seatHiders_other {a : RoundRoleAssignment} (h : a.role ≠ .hider)
    (assignments : List RoundRoleAssignment) (slots : List ℤ) :
    seatHiders (a :: assignments) slots = a :: seatHiders assignments slots := by
  rw [seatHiders.eq_def]
  exact if_neg h

theorem seatHiders_unslotted : ∀ (assignments : List RoundRoleAssignment) (slots : List ℤ),
    (seatHiders assignments slots).map unslotted =
      assignments.map unslotted
  | [], _ => rfl
  | a :: assignments, slots => by
    by_cases hrole : a.role = .hider
    · cases slots with
      | nil =>
        rw [seatHiders_unseated hrole, List.map_cons, List.map_cons,
          seatHiders_unslotted assignments []]
      | cons slot slots =>
        rw [seatHiders_hider hrole, List.map_cons, List.map_cons,
          seatHiders_unslotted assignments slots]
        rfl
    · rw [seatHiders_other hrole, List.map_cons, List.map_cons,
        seatHiders_unslotted assignments slots]

theorem seatHiders_others : ∀ (assignments : List RoundRoleAssignment) (slots : List ℤ),
    ((seatHiders assignments slots).filter fun a => a.role ≠ .hider) =
      assignments.filter fun a => a.role ≠ .hider
  | [], _ => rfl
  | a :: assignments, slots => by
    by_cases hrole : a.role = .hider
    · cases slots with
      | nil =>
        rw [seatHiders_unseated hrole]
        simpa [hrole] using seatHiders_others assignments []
      | cons slot slots =>
        rw [seatHiders_hider hrole]
        simpa [hrole] using seatHiders_others assignments slots
    · rw [seatHiders_other hrole]
      simpa [hrole] using seatHiders_others assignments slots

theorem seatHiders_slots : ∀ {assignments : List RoundRoleAssignment} {slots : List ℤ},
    (hiders assignments).length ≤ slots.length →
      (hiders (seatHiders assignments slots)).map (·.hidingSlot) =
        slots.take (hiders assignments).length
  | [], _, _ => rfl
  | a :: assignments, slots, h => by
    by_cases hrole : a.role = .hider
    · have hlength : (hiders (a :: assignments)).length = (hiders assignments).length + 1 := by
        simp [hiders, hrole]
      rw [hlength] at h ⊢
      cases slots with
      | nil => exact absurd h (Nat.not_succ_le_zero _)
      | cons slot slots =>
        have hrest := seatHiders_slots (Nat.le_of_succ_le_succ h)
        rw [seatHiders_hider hrole, List.take_succ_cons, ← hrest]
        simp [hiders, hrole]
    · have hcons : ∀ rest, hiders (a :: rest) = hiders rest := by
        intro rest
        simp [hiders, hrole]
      rw [hcons] at h ⊢
      rw [seatHiders_other hrole, hcons]
      exact seatHiders_slots h

/-- The slots before they are shuffled. -/
def slotNumbers (targetSlotCount : ℕ) : List ℤ :=
  (List.range targetSlotCount).map fun index : ℕ => (index : ℤ) + 1

theorem slotNumbers_eq (targetSlotCount : ℕ) :
    ((do let index ← List.range targetSlotCount; pure (index : ℤ)).map fun index => index + 1) =
      slotNumbers targetSlotCount := by
  have hcast : (do let index ← List.range targetSlotCount; pure (index : ℤ)) =
      (List.range targetSlotCount).map fun index : ℕ => (index : ℤ) := List.map_eq_flatMap.symm
  rw [hcast, List.map_map]
  rfl

theorem mem_slotNumbers {targetSlotCount : ℕ} {slot : ℤ} (h : slot ∈ slotNumbers targetSlotCount) :
    1 ≤ slot ∧ slot ≤ targetSlotCount := by
  obtain ⟨index, hindex, rfl⟩ := List.mem_map.mp h
  have := List.mem_range.mp hindex
  omega

theorem nodup_slotNumbers (targetSlotCount : ℕ) : (slotNumbers targetSlotCount).Nodup := by
  refine List.Nodup.map (fun i j h => ?_) List.nodup_range
  have h : (i : ℤ) + 1 = j + 1 := h
  omega

theorem length_slotNumbers (targetSlotCount : ℕ) :
    (slotNumbers targetSlotCount).length = targetSlotCount := by
  rw [slotNumbers, List.length_map, List.length_range]

/-- What `assignCasualHidingSlots` draws, whatever the random source yields. -/
theorem assignCasualHidingSlots_spec {assignments : List RoundRoleAssignment} {random : Random}
    {drawn : ℕ × List RoundRoleAssignment}
    (h : assignCasualHidingSlots assignments random = .ok drawn) :
    hiders assignments ≠ [] ∧ SlotsDrawn assignments drawn.2 drawn.1 := by
  simp only [assignCasualHidingSlots, bind_eq_ok, exists_unit, require_eq_ok, pure_eq_ok] at h
  obtain ⟨hhiders, ⟨slots, rest⟩, hslots, rfl⟩ := h
  rw [slotNumbers_eq] at hslots
  have hperm : slots.Perm (slotNumbers (max ((hiders assignments).length + 2) minimumCasualTargetSlots)) :=
    shuffleFrom_perm hslots
  have henough : (hiders assignments).length ≤ slots.length := by
    rw [hperm.length_eq, length_slotNumbers]
    omega
  have hseated := seatHiders_slots henough
  refine ⟨hhiders, seatHiders_unslotted _ _, ?_, fun a ha => ?_, seatHiders_others _ _⟩
  · rw [hseated]
    exact (hperm.nodup_iff.mpr (nodup_slotNumbers _)).sublist (List.take_sublist _ _)
  · have hslot : a.hidingSlot ∈ (hiders (seatHiders assignments slots)).map (·.hidingSlot) :=
      List.mem_map_of_mem ha
    rw [hseated] at hslot
    exact mem_slotNumbers (hperm.subset (List.mem_of_mem_take hslot))

/-- Every list with a hider gets its slots as soon as the random source has a number for each slot. -/
theorem assignCasualHidingSlots_ok {assignments : List RoundRoleAssignment} {random : Random}
    (hhiders : hiders assignments ≠ []) (hrandom : assignments.length + 2 ≤ random.length) :
    ∃ drawn, assignCasualHidingSlots assignments random = .ok drawn := by
  have hfewer : (hiders assignments).length ≤ assignments.length := List.length_filter_le _ _
  have hsome : 1 ≤ (hiders assignments).length := List.length_pos_of_ne_nil hhiders
  have hindex : (slotNumbers (max ((hiders assignments).length + 2) minimumCasualTargetSlots)).length - 1 ≤
      random.length := by
    rw [length_slotNumbers, minimumCasualTargetSlots]
    omega
  obtain ⟨drawn, hdrawn, -⟩ := shuffleFrom_ok "read hiding-slot randomness" _ _ _ hindex
  refine ⟨_, bind_eq_ok.mpr ⟨(), require_eq_ok.mpr hhiders, bind_eq_ok.mpr ⟨drawn, ?_, rfl⟩⟩⟩
  rw [slotNumbers_eq]
  exact hdrawn

end Slots

/-! ### `newCasualRoundState` -/

section State

variable {round : RoundSnapshot}

/-- The occupied slots are those of the hiders seated so far. -/
def Occupied (done : List RoundRoleAssignment) (s : CasualRoundState) : Prop :=
  ∀ slot, slot ∈ s.hiderBySlot ↔ slot ∈ (hiders done).map (·.hidingSlot)

/-- What the loop of `newCasualRoundState` asks of the assignments. -/
structure Seatable (round : RoundSnapshot) (assignments : List RoundRoleAssignment) : Prop where
  players : (assignments.map (·.playerId)).Nodup
  names : ∀ a ∈ assignments, a.playerId ≠ ""
  roles : ∀ a ∈ assignments, a.role = .hider ∨ a.role = .hunter
  slots : ((hiders assignments).map (·.hidingSlot)).Nodup
  range : ∀ a ∈ hiders assignments, 1 ≤ a.hidingSlot ∧ a.hidingSlot ≤ round.targetSlotCount

theorem seatAssignment_ok {done rest : List RoundRoleAssignment} {a : RoundRoleAssignment}
    {s : CasualRoundState} (hseatable : Seatable round (done ++ a :: rest)) (hseated : Seated done s)
    (hoccupied : Occupied done s) :
    ∃ s', seatAssignment round s a = .ok s' ∧ Occupied (done ++ [a]) s' := by
  have ha : a ∈ done ++ a :: rest := List.mem_append_right _ List.mem_cons_self
  have hplayers := hseatable.players
  rw [List.map_append, List.map_cons, List.nodup_append] at hplayers
  have hnew : a.playerId ∉ s.assignments := by
    intro hmem
    obtain ⟨b, hb, hsame⟩ := (hseated.mem_assignments _).mp hmem
    exact hplayers.2.2 _ (List.mem_map_of_mem hb) _ List.mem_cons_self hsame
  rcases hseatable.roles a ha with hrole | hrole
  · have hhider : a ∈ hiders (done ++ a :: rest) :=
      List.mem_filter.mpr ⟨ha, decide_eq_true hrole⟩
    have hslots := hseatable.slots
    have hcons : hiders (done ++ a :: rest) = hiders done ++ a :: hiders rest := by
      simp [hiders, List.filter_append, hrole]
    rw [hcons, List.map_append, List.map_cons, List.nodup_append] at hslots
    have hfree : a.hidingSlot ∉ s.hiderBySlot := fun hmem =>
      hslots.2.2 _ ((hoccupied _).mp hmem) _ List.mem_cons_self rfl
    refine ⟨_, seatAssignment_eq_ok.mpr ⟨hseatable.names a ha, hnew,
      .inr ⟨hrole, hseatable.range a hhider, hfree, rfl⟩⟩, fun slot => ?_⟩
    have hdone : hiders (done ++ [a]) = hiders done ++ [a] := by
      simp [hiders, List.filter_append, hrole]
    rw [hdone, List.map_append, List.mem_append, ← hoccupied slot, AList.mem_insert, or_comm]
    simp
  · refine ⟨_, seatAssignment_eq_ok.mpr ⟨hseatable.names a ha, hnew, .inl ⟨hrole, rfl⟩⟩,
      fun slot => ?_⟩
    have hdone : hiders (done ++ [a]) = hiders done := by
      simp [hiders, List.filter_append, hrole]
    rw [hdone]
    exact hoccupied slot

theorem seatAssignments_ok : ∀ {rest done : List RoundRoleAssignment} {s : CasualRoundState},
    Seatable round (done ++ rest) → Seated done s → Occupied done s →
      ∃ s', seatAssignments round s rest = .ok s'
  | [], _, s, _, _, _ => ⟨s, rfl⟩
  | a :: rest, done, s, hseatable, hseated, hoccupied => by
    obtain ⟨s', hs', hoccupied'⟩ := seatAssignment_ok hseatable hseated hoccupied
    have happend : done ++ a :: rest = (done ++ [a]) ++ rest := by
      rw [List.append_assoc, List.singleton_append]
    obtain ⟨s'', hs''⟩ :=
      seatAssignments_ok (happend ▸ hseatable) (hseated.seat hs') hoccupied'
    refine ⟨s'', ?_⟩
    exact seatAssignments_cons.mpr ⟨s', hs', hs''⟩

/-- **A round with drawn roles and slots and positive rules can be run.** -/
theorem newCasualRoundState_ok (hid : round.id ≠ "") (hmode : round.mode = "casual")
    (hrules : 0 < round.hidingDurationSeconds ∧ 0 < round.huntingDurationSeconds ∧
      0 < round.shellLimit ∧ 0 < round.reloadDurationMs)
    (hseatable : Seatable round round.roleAssignments)
    (hhunter : ∃ a ∈ round.roleAssignments, a.role = .hunter)
    (hhider : hiders round.roleAssignments ≠ []) :
    ∃ s, newCasualRoundState round = .ok s := by
  have hseatable : Seatable round ([] ++ round.roleAssignments) := hseatable
  have hoccupied : Occupied [] (unseatedRound round) := fun slot => by simp [unseatedRound, hiders]
  obtain ⟨s, hs⟩ := seatAssignments_ok hseatable (seated_unseatedRound round) hoccupied
  have hseated : Seated round.roleAssignments s := by
    have := (seated_unseatedRound round).seatAll hs
    rwa [List.nil_append] at this
  have hhunters : s.hunters.len ≠ 0 := by
    obtain ⟨a, ha, hrole⟩ := hhunter
    have hmem := (hseated.mem_hunters a.playerId).mpr ⟨a, ha, hrole, rfl⟩
    intro hzero
    have hnil : s.hunters.keys = [] := List.eq_nil_of_length_eq_zero hzero
    have hkey := AList.mem_keys.mp hmem
    rw [hnil] at hkey
    exact absurd hkey List.not_mem_nil
  have hhiders : s.hiderBySlot.len ≠ 0 := by
    rw [hseated.hiders_len, hiderIds, List.length_map]
    exact fun hzero => hhider (List.eq_nil_of_length_eq_zero hzero)
  unfold newCasualRoundState
  have hguard : ¬ (round.id = "" ∨ round.mode ≠ "casual") := by
    rintro (h | h)
    · exact hid h
    · exact h hmode
  have hpositive : ¬ (round.hidingDurationSeconds ≤ 0 ∨ round.huntingDurationSeconds ≤ 0 ∨
      round.shellLimit ≤ 0 ∨ round.reloadDurationMs ≤ 0) := by omega
  rw [if_neg hguard, if_neg hpositive, hs]
  dsimp only
  rw [if_neg (by omega)]
  exact ⟨s, rfl⟩

end State

end HiveChameleon.Nakama.Lobby
