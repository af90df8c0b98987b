import HiveChameleon.Lib.Shuffle
import HiveChameleon.Nakama.RoundRoles

/-!
# Nakama.FairShuffle — what uniform choices make of roles and slots

The shuffles of strings and of slot numbers take each sequence of choices to a permutation of its own.
Under uniform choices every role assignment that `selectRoundRoles` may draw is therefore as likely as
any other, and so is every way to give the hiders their slots.
-/

namespace HiveChameleon.Nakama.Lobby

open Equiv Lib

/-! ### The shuffle as a function of its choices -/

/-- The numbers that a shuffle draws from a place down. -/
def drawsFrom (choice : ℕ → ℕ) : ℕ → Random
  | 0 => []
  | index + 1 => choice (index + 1) :: drawsFrom choice index

/-- The random numbers that make a shuffle choose so. -/
def draws {n : ℕ} (c : Choices n) : Random := drawsFrom c.choice (n - 1)

section Shuffle

variable {α : Type} {message : String} {n : ℕ}

theorem swap_ofFn (v : Fin n → α) (i j : Fin n) :
    Lobby.swap (List.ofFn v) i j = List.ofFn fun k => v (Equiv.swap i j k) := by
  have hi : (List.ofFn v)[i.val]? = some (v i) := by
    rw [List.getElem?_ofFn, dif_pos i.isLt]
  have hj : (List.ofFn v)[j.val]? = some (v j) := by
    rw [List.getElem?_ofFn, dif_pos j.isLt]
  unfold Lobby.swap
  rw [hi, hj]
  refine List.ext_getElem (by simp) fun k hk hk' => ?_
  have hkn : k < n := by simpa using hk'
  simp only [List.getElem_set, List.getElem_ofFn]
  by_cases hjk : j.val = k
  · have hplace : (⟨k, hkn⟩ : Fin n) = j := Fin.ext hjk.symm
    rw [if_pos hjk, hplace, Equiv.swap_apply_right]
  · rw [if_neg hjk]
    by_cases hik : i.val = k
    · have hplace : (⟨k, hkn⟩ : Fin n) = i := Fin.ext hik.symm
      rw [if_pos hik, hplace, Equiv.swap_apply_left]
    · rw [if_neg hik, Equiv.swap_apply_of_ne_of_ne]
      · exact Fin.ne_of_val_ne (Ne.symm hik)
      · exact Fin.ne_of_val_ne (Ne.symm hjk)

/-- The loop of a shuffle makes the swaps of its choices, and draws no more. -/
theorem shuffleFrom_draws (c : Choices n) (random : Random) :
    ∀ (index : ℕ) (v : Fin n → α), index < n →
      shuffleFrom message index (List.ofFn v) (drawsFrom c.choice index ++ random) =
        .ok (List.ofFn fun i => v (c.swaps index i), random)
  | 0, v, _ => rfl
  | index + 1, v, h => by
    have hmod : c.choice (index + 1) % (index + 2) = c.choice (index + 1) :=
      Nat.mod_eq_of_lt (Nat.lt_succ_of_le (c.choice_le (index + 1)))
    have hdrawn : randInt (index + 2) message (drawsFrom c.choice (index + 1) ++ random) =
        .ok (c.choice (index + 1), drawsFrom c.choice index ++ random) := by
      rw [drawsFrom, List.cons_append, randInt, hmod]
    have hswap := swap_ofFn v ⟨index + 1, h⟩ ⟨c.choice (index + 1), (c.choice_le _).trans_lt h⟩
    have hrest := shuffleFrom_draws c random index
      (fun k => v (Equiv.swap ⟨index + 1, h⟩ ⟨c.choice (index + 1), (c.choice_le _).trans_lt h⟩ k))
      (by omega)
    rw [shuffleFrom]
    refine bind_eq_ok.mpr ⟨_, hdrawn, ?_⟩
    dsimp only at hswap ⊢
    rw [hswap, hrest, c.swaps_succ h]
    rfl

theorem shuffleFrom_permutation (message : String) (c : Choices n) (v : Fin n → α) (random : Random) :
    shuffleFrom message (n - 1) (List.ofFn v) (draws c ++ random) =
      .ok (List.ofFn fun i => v (c.permutation i), random) := by
  rcases Nat.eq_zero_or_pos n with rfl | hn
  · rfl
  · exact shuffleFrom_draws c random (n - 1) v (by omega)

/-- **A fair shuffle**: its choice sequences are the permutations of the places, each of which moves the
values of any list and has the same chance. -/
def ShufflesFairly (shuffle : List α → Random → Except LobbyError (List α × Random)) : Prop :=
  ∀ values : List α, ∃ σ : Choices values.length → Perm (Fin values.length), Function.Bijective σ ∧
    (∀ c, shuffle values (draws c) = .ok (List.ofFn fun i => values.get (σ c i), [])) ∧
      ∀ τ, chance (fun c => σ c = τ) = 1 / values.length.factorial

theorem shufflesFairly_of_shuffleFrom {shuffle : List α → Random → Except LobbyError (List α × Random)}
    (h : ∀ values random, shuffle values random = shuffleFrom message (values.length - 1) values random) :
    ShufflesFairly shuffle := by
  intro values
  refine ⟨Choices.permutation, Choices.permutation_bijective, fun c => ?_, chance_permutation⟩
  have hshuffled := shuffleFrom_permutation message c values.get []
  rw [List.append_nil, List.ofFn_get] at hshuffled
  rw [h, hshuffled]

end Shuffle

/-! ### Hiding slots -/

section Slots

variable {assignments seated seated' : List RoundRoleAssignment} {slots : List ℤ}

theorem seatHiders_take : ∀ (assignments : List RoundRoleAssignment) (slots : List ℤ),
    seatHiders assignments (slots.take (hiders assignments).length) = seatHiders assignments slots
  | [], _ => rfl
  | a :: assignments, slots => by
    by_cases hrole : a.role = .hider
    · have hlength : (hiders (a :: assignments)).length = (hiders assignments).length + 1 := by
        simp [hiders, hrole]
      rw [hlength]
      cases slots with
      | nil => rfl
      | cons slot slots =>
        rw [List.take_succ_cons, seatHiders_hider hrole, seatHiders_hider hrole,
          seatHiders_take assignments slots]
    · have hcons : hiders (a :: assignments) = hiders assignments := by simp [hiders, hrole]
      rw [hcons, seatHiders_other hrole, seatHiders_other hrole, seatHiders_take assignments slots]

/-- The slots of the hiders, in their order. -/
def seats (seated : List RoundRoleAssignment) : List ℤ := (hiders seated).map (·.hidingSlot)

theorem seatHiders_seats : ∀ {assignments seated : List RoundRoleAssignment},
    seated.map unslotted = assignments.map unslotted →
    (seated.filter fun a => a.role ≠ .hider) = (assignments.filter fun a => a.role ≠ .hider) →
      seatHiders assignments (seats seated) = seated
  | [], seated, hkept, _ => by
    rw [List.map_nil, List.map_eq_nil_iff] at hkept
    rw [hkept]
    rfl
  | a :: assignments, seated, hkept, hothers => by
    cases seated with
    | nil => simp at hkept
    | cons b seated =>
      rw [List.map_cons, List.map_cons] at hkept
      obtain ⟨hhead, htail⟩ := List.cons.inj hkept
      have hhead : b.playerId = a.playerId ∧ b.role = a.role ∧ b.hunterVolunteer = a.hunterVolunteer := by
        simpa [unslotted] using hhead
      obtain ⟨hplayer, hsame, hvolunteer⟩ := hhead
      by_cases hrole : a.role = .hider
      · have hhider : b.role = .hider := hsame.trans hrole
        have hseats : seats (b :: seated) = b.hidingSlot :: seats seated := by
          simp [seats, hiders, hhider]
        have hrest : (seated.filter fun a => a.role ≠ .hider) =
            assignments.filter fun a => a.role ≠ .hider := by
          simpa [hrole, hhider] using hothers
        have hsitting : ({ a with hidingSlot := b.hidingSlot } : RoundRoleAssignment) = b := by
          cases a
          cases b
          simp_all
        rw [hseats, seatHiders_hider hrole, seatHiders_seats htail hrest, hsitting]
      · have hother : b.role ≠ .hider := by
          rw [hsame]
          exact hrole
        have hseats : seats (b :: seated) = seats seated := by simp [seats, hiders, hother]
        have hrest : b = a ∧ (seated.filter fun a => a.role ≠ .hider) =
            assignments.filter fun a => a.role ≠ .hider := by
          simpa [hrole, hother] using hothers
        rw [hseats, seatHiders_other hrole, seatHiders_seats htail hrest.2, hrest.1]

/-- How many slots there are to draw from. -/
def targetSlots (assignments : List RoundRoleAssignment) : ℕ :=
  max ((hiders assignments).length + 2) minimumCasualTargetSlots

theorem SlotsDrawn.length_seats (h : SlotsDrawn assignments seated (targetSlots assignments)) :
    (seats seated).length = (hiders assignments).length := by
  have hroles : (seated.map unslotted).filter (fun u => u.2.1 = .hider) =
      (assignments.map unslotted).filter fun u => u.2.1 = .hider := by rw [h.kept]
  rw [List.filter_map, List.filter_map] at hroles
  have hlength := congrArg List.length hroles
  rw [List.length_map, List.length_map] at hlength
  rw [seats, List.length_map]
  exact hlength

/-- What choices draw: the seats of the hiders are the first slots of the permutation. -/
theorem assignCasualHidingSlots_draws (hhiders : hiders assignments ≠ []) (c : Choices (targetSlots assignments))
    (h : SlotsDrawn assignments seated (targetSlots assignments)) :
    assignCasualHidingSlots assignments (draws c) = .ok (targetSlots assignments, seated) ↔
      ((List.ofFn fun i => ((c.permutation i : ℕ) : ℤ) + 1).take (hiders assignments).length) =
        seats seated := by
  have hslots : slotNumbers (targetSlots assignments) =
      List.ofFn fun i : Fin (targetSlots assignments) => ((i : ℕ) : ℤ) + 1 := by
    refine List.ext_getElem ?_ fun i hi hi' => ?_
    · rw [length_slotNumbers, List.length_ofFn]
    · rw [List.getElem_ofFn]
      simp only [slotNumbers, List.getElem_map, List.getElem_range]
  have hshuffled := shuffleFrom_permutation "read hiding-slot randomness" c
    (fun i => ((i : ℕ) : ℤ) + 1) []
  rw [List.append_nil, ← hslots] at hshuffled
  have hdrawn : assignCasualHidingSlots assignments (draws c) =
      .ok (targetSlots assignments,
        seatHiders assignments (List.ofFn fun i => ((c.permutation i : ℕ) : ℤ) + 1)) := by
    refine bind_eq_ok.mpr ⟨(), require_eq_ok.mpr hhiders, bind_eq_ok.mpr
      ⟨(List.ofFn fun i => ((c.permutation i : ℕ) : ℤ) + 1, []), ?_, rfl⟩⟩
    rw [slotNumbers_eq, shuffleInts]
    have hlength := length_slotNumbers (targetSlots assignments)
    exact (congrArg (fun n => shuffleFrom "read hiding-slot randomness" (n - 1)
      (slotNumbers (targetSlots assignments)) (draws c)) hlength).trans hshuffled
  rw [hdrawn, Except.ok.injEq, Prod.mk.injEq, and_iff_right rfl]
  have henough : (hiders assignments).length ≤
      (List.ofFn fun i => ((c.permutation i : ℕ) : ℤ) + 1).length := by
    rw [List.length_ofFn, targetSlots]
    omega
  constructor
  · intro hseated
    rw [← hseated, seats, seatHiders_slots henough]
  · intro hseats
    rw [← seatHiders_take, hseats]
    exact seatHiders_seats h.kept h.others

theorem SlotsDrawn.exists_places (h : SlotsDrawn assignments seated (targetSlots assignments)) :
    ∃ x : Fin (hiders assignments).length → Fin (targetSlots assignments), Function.Injective x ∧
      seats seated = List.ofFn fun i => ((x i : ℕ) : ℤ) + 1 := by
  have hlength := h.length_seats
  have hrange : ∀ slot ∈ seats seated, 1 ≤ slot ∧ slot ≤ targetSlots assignments := by
    intro slot hslot
    obtain ⟨a, ha, rfl⟩ := List.mem_map.mp hslot
    exact h.range a ha
  -- the slot of a hider, and its place
  let slot (i : Fin (hiders assignments).length) : ℤ := (seats seated).get (i.cast hlength.symm)
  have hslot (i : Fin (hiders assignments).length) : 1 ≤ slot i ∧ slot i ≤ targetSlots assignments :=
    hrange _ (List.get_mem _ _)
  have hplace (i : Fin (hiders assignments).length) : (slot i - 1).toNat < targetSlots assignments := by
    have := hslot i
    omega
  refine ⟨fun i => ⟨(slot i - 1).toNat, hplace i⟩, fun i j hij => ?_, ?_⟩
  · have hi := hslot i
    have hj := hslot j
    have hij : (slot i - 1).toNat = (slot j - 1).toNat := congrArg Fin.val hij
    have hsame : slot i = slot j := by omega
    have hnodup : (seats seated).Nodup := h.distinct
    exact Fin.cast_injective hlength.symm (hnodup.injective_get hsame)
  · have hget : ∀ i, (((slot i - 1).toNat : ℕ) : ℤ) + 1 = slot i := by
      intro i
      have := hslot i
      omega
    simp only [hget]
    refine List.ext_getElem (by rw [hlength, List.length_ofFn]) fun i hi hi' => ?_
    rw [List.getElem_ofFn]
    rfl

/-- **Every hiding-slot assignment has the same chance.** -/
theorem chance_slots (hhiders : hiders assignments ≠ [])
    (h : SlotsDrawn assignments seated (targetSlots assignments))
    (h' : SlotsDrawn assignments seated' (targetSlots assignments)) :
    chance (fun c : Choices (targetSlots assignments) =>
        assignCasualHidingSlots assignments (draws c) = .ok (targetSlots assignments, seated)) =
      chance fun c : Choices (targetSlots assignments) =>
        assignCasualHidingSlots assignments (draws c) = .ok (targetSlots assignments, seated') := by
  have hfewer : (hiders assignments).length ≤ targetSlots assignments := by
    rw [targetSlots]
    omega
  -- the first places of the permutation are the seats
  have hevent {seated : List RoundRoleAssignment}
      (h : SlotsDrawn assignments seated (targetSlots assignments))
      {x : Fin (hiders assignments).length → Fin (targetSlots assignments)}
      (hx : seats seated = List.ofFn fun i => ((x i : ℕ) : ℤ) + 1) (c : Choices (targetSlots assignments)) :
      assignCasualHidingSlots assignments (draws c) = .ok (targetSlots assignments, seated) ↔
        ∀ i, c.permutation (Fin.castLE hfewer i) = x i := by
    have hfirst : ((List.ofFn fun i => ((c.permutation i : ℕ) : ℤ) + 1).take (hiders assignments).length) =
        List.ofFn fun i : Fin (hiders assignments).length =>
          ((c.permutation (Fin.castLE hfewer i) : ℕ) : ℤ) + 1 := by
      refine List.ext_getElem ?_ fun i hi hi' => ?_
      · rw [List.length_take, List.length_ofFn, List.length_ofFn]
        omega
      · simp only [List.getElem_take, List.getElem_ofFn]
        rfl
    rw [assignCasualHidingSlots_draws hhiders c h, hfirst, hx, List.ofFn_inj, funext_iff]
    refine forall_congr' fun i => ?_
    constructor
    · intro hi
      refine Fin.ext ?_
      omega
    · intro hi
      rw [hi]
  obtain ⟨x, hinj, hx⟩ := h.exists_places
  obtain ⟨x', hinj', hx'⟩ := h'.exists_places
  simp only [hevent h hx, hevent h' hx']
  exact chance_seated _ hinj hinj'

end Slots

/-! ### Roles -/

/-- The members who volunteer to hunt, in order. -/
def volunteersOf (members nominations : List String) : List String :=
  (members.filter fun playerId => playerId ∈ nominations).insertionSort (· ≤ ·)

/-- The other members, in order. -/
def othersOf (members nominations : List String) : List String :=
  (members.filter fun playerId => playerId ∉ nominations).insertionSort (· ≤ ·)

/-- The hunters among the assignments. -/
def huntersOf (drawn : List RoundRoleAssignment) : List String :=
  (drawn.filter fun a => a.role = .hunter).map (·.playerId)

/-- The places of a list whose players are in another. -/
def places (players hunters : List String) : Finset (Fin players.length) :=
  Finset.univ.filter fun i => players.get i ∈ hunters

section Roles

variable {members nominations players hunters : List String} {hunterCount : ℤ}
  {drawn drawn' : List RoundRoleAssignment}

theorem nodup_volunteersOf (h : members.Nodup) : (volunteersOf members nominations).Nodup :=
  (List.perm_insertionSort _ _).nodup_iff.mpr (h.filter _)

theorem nodup_othersOf (h : members.Nodup) : (othersOf members nominations).Nodup :=
  (List.perm_insertionSort _ _).nodup_iff.mpr (h.filter _)

theorem mem_volunteersOf {p : String} :
    p ∈ volunteersOf members nominations ↔ p ∈ members ∧ p ∈ nominations := by
  rw [volunteersOf, List.mem_insertionSort, List.mem_filter, decide_eq_true_eq]

theorem mem_othersOf {p : String} :
    p ∈ othersOf members nominations ↔ p ∈ members ∧ p ∉ nominations := by
  rw [othersOf, List.mem_insertionSort, List.mem_filter, decide_eq_true_eq]

theorem mem_places {i : Fin players.length} : i ∈ places players hunters ↔ players.get i ∈ hunters :=
  Finset.mem_filter_univ i

theorem card_places (hplayers : players.Nodup) :
    (places players hunters).card = (hunters.toFinset ∩ players.toFinset).card := by
  rw [← Finset.card_image_of_injective _ hplayers.injective_get]
  congr 1
  ext p
  simp only [Finset.mem_image, mem_places, Finset.mem_inter, List.mem_toFinset]
  constructor
  · rintro ⟨i, hi, rfl⟩
    exact ⟨hi, List.get_mem _ _⟩
  · rintro ⟨hhunter, hplayer⟩
    obtain ⟨i, rfl⟩ := List.get_of_mem hplayer
    exact ⟨i, hhunter, rfl⟩

theorem RolesDrawn.mem_huntersOf (h : RolesDrawn members nominations hunterCount drawn)
    (hnodup : members.Nodup) {a : RoundRoleAssignment} (ha : a ∈ drawn) :
    a.playerId ∈ huntersOf drawn ↔ a.role = .hunter := by
  rw [huntersOf, List.mem_map]
  constructor
  · rintro ⟨b, hb, hsame⟩
    obtain ⟨hb, hhunter⟩ := List.mem_filter.mp hb
    have hplayers : (drawn.map (·.playerId)).Nodup := h.members ▸ hnodup
    obtain rfl : b = a := List.inj_on_of_nodup_map hplayers hb ha hsame
    exact of_decide_eq_true hhunter
  · exact fun hhunter => ⟨a, List.mem_filter.mpr ⟨ha, decide_eq_true hhunter⟩, rfl⟩

theorem RolesDrawn.eq_map (h : RolesDrawn members nominations hunterCount drawn) (hnodup : members.Nodup) :
    drawn = members.map (roleOf nominations (huntersOf drawn)) := by
  have hself : ∀ a ∈ drawn, roleOf nominations (huntersOf drawn) a.playerId = a := by
    intro a ha
    have hhunter := h.mem_huntersOf hnodup ha
    have hvolunteer := h.volunteers a ha
    have hslot := h.unseated a ha
    have hrole : (if a.playerId ∈ huntersOf drawn then .hunter else .hider) = a.role := by
      rcases h.roles a ha with hhider | hhunts
      · have hnot : a.playerId ∉ huntersOf drawn := fun hmem =>
          absurd (hhider.symm.trans (hhunter.mp hmem)) (by decide)
        rw [if_neg hnot, hhider]
      · rw [if_pos (hhunter.mpr hhunts), hhunts]
    rw [roleOf, hrole, ← hvolunteer, ← hslot]
  calc drawn = drawn.map id := (List.map_id drawn).symm
    _ = drawn.map (roleOf nominations (huntersOf drawn) ∘ fun a => a.playerId) :=
        List.map_congr_left fun a ha => (hself a ha).symm
    _ = members.map (roleOf nominations (huntersOf drawn)) := by rw [← List.map_map, h.members]

theorem RolesDrawn.card_volunteers (h : RolesDrawn members nominations hunterCount drawn)
    (hnodup : members.Nodup) :
    ((places (volunteersOf members nominations) (huntersOf drawn)).card : ℤ) =
        min hunterCount (volunteersOf members nominations).length ∧
      ((places (volunteersOf members nominations) (huntersOf drawn)).card +
        (places (othersOf members nominations) (huntersOf drawn)).card : ℤ) = hunterCount := by
  rw [card_places (nodup_volunteersOf hnodup), card_places (nodup_othersOf hnodup)]
  have hplayers : (drawn.map (·.playerId)).Nodup := h.members ▸ hnodup
  have hdistinct : (huntersOf drawn).Nodup := hplayers.sublist (List.filter_sublist.map _)
  have hcard : ((huntersOf drawn).toFinset.card : ℤ) = hunterCount := by
    rw [List.toFinset_card_of_nodup hdistinct, huntersOf, List.length_map]
    exact h.hunters
  have hmembers {p : String} (hp : p ∈ huntersOf drawn) : p ∈ members := by
    obtain ⟨a, ha, rfl⟩ := List.mem_map.mp hp
    rw [← h.members]
    exact List.mem_map_of_mem (List.mem_filter.mp ha).1
  have hothers : (huntersOf drawn).toFinset ∩ (othersOf members nominations).toFinset =
      (huntersOf drawn).toFinset \ (volunteersOf members nominations).toFinset := by
    ext p
    simp only [Finset.mem_inter, Finset.mem_sdiff, List.mem_toFinset, mem_volunteersOf, mem_othersOf]
    constructor
    · rintro ⟨hp, -, hnot⟩
      exact ⟨hp, fun hv => hnot hv.2⟩
    · rintro ⟨hp, hnot⟩
      exact ⟨hp, hmembers hp, fun hv => hnot ⟨hmembers hp, hv⟩⟩
  have hsum := Finset.card_inter_add_card_sdiff (huntersOf drawn).toFinset
    (volunteersOf members nominations).toFinset
  rw [hothers]
  have hlength : (volunteersOf members nominations).toFinset.card =
      (volunteersOf members nominations).length :=
    List.toFinset_card_of_nodup (nodup_volunteersOf hnodup)
  refine ⟨?_, by omega⟩
  by_cases hother : ∃ a ∈ drawn, a.role = .hunter ∧ a.playerId ∉ nominations
  · -- a hunter who did not volunteer: all volunteers hunt
    have hall : (volunteersOf members nominations).toFinset ⊆ (huntersOf drawn).toFinset := by
      intro p hp
      obtain ⟨hp, hv⟩ := mem_volunteersOf.mp (List.mem_toFinset.mp hp)
      rw [← h.members] at hp
      obtain ⟨a, ha, rfl⟩ := List.mem_map.mp hp
      exact List.mem_toFinset.mpr ((h.mem_huntersOf hnodup ha).mpr (h.volunteersFirst hother a ha hv))
    rw [Finset.inter_eq_right.mpr hall] at hsum ⊢
    omega
  · have hnone : (huntersOf drawn).toFinset \ (volunteersOf members nominations).toFinset = ∅ := by
      refine Finset.sdiff_eq_empty_iff_subset.mpr fun p hp => ?_
      have hp := List.mem_toFinset.mp hp
      refine List.mem_toFinset.mpr (mem_volunteersOf.mpr ⟨hmembers hp, ?_⟩)
      obtain ⟨a, ha, rfl⟩ := List.mem_map.mp hp
      obtain ⟨ha, hhunter⟩ := List.mem_filter.mp ha
      by_contra hnot
      exact hother ⟨a, ha, of_decide_eq_true hhunter, hnot⟩
    have hfewer : ((huntersOf drawn).toFinset ∩ (volunteersOf members nominations).toFinset).card ≤
        (volunteersOf members nominations).toFinset.card :=
      Finset.card_le_card Finset.inter_subset_right
    rw [hnone, Finset.card_empty] at hsum
    omega

/-- The first of the shuffled candidates. -/
def chosen (members nominations : List String) (hunterCount : ℤ)
    (c : Choices (volunteersOf members nominations).length × Choices (othersOf members nominations).length) :
    List String :=
  ((List.ofFn fun i => (volunteersOf members nominations).get (c.1.permutation i)) ++
    List.ofFn fun i => (othersOf members nominations).get (c.2.permutation i)).take hunterCount.toNat

theorem selectRoundRoles_draws (hnodup : members.Nodup) (hnames : ∀ p ∈ members, p ≠ "")
    (hcount : 1 ≤ hunterCount ∧ hunterCount < members.length)
    (c : Choices (volunteersOf members nominations).length × Choices (othersOf members nominations).length) :
    selectRoundRoles members nominations hunterCount (draws c.1 ++ draws c.2) =
      .ok (members.map (roleOf nominations (chosen members nominations hunterCount c)), []) := by
  have hvolunteers := shuffleFrom_permutation "read role assignment randomness" c.1
    (volunteersOf members nominations).get (draws c.2)
  have hothers := shuffleFrom_permutation "read role assignment randomness" c.2
    (othersOf members nominations).get []
  rw [List.ofFn_get] at hvolunteers hothers
  rw [List.append_nil] at hothers
  have hmembers : checkMembers [] members = .ok () :=
    checkMembers_eq_ok.mpr ⟨hnames, hnodup, fun _ _ => List.not_mem_nil⟩
  exact bind_eq_ok.mpr ⟨(), require_eq_ok.mpr hcount, bind_eq_ok.mpr ⟨(), hmembers,
    bind_eq_ok.mpr ⟨_, hvolunteers, bind_eq_ok.mpr ⟨_, hothers, rfl⟩⟩⟩⟩

theorem getElem_mem_take {α : Type} {l : List α} (hl : l.Nodup) {i k : ℕ} (hi : i < l.length) :
    l[i] ∈ l.take k ↔ i < k := by
  rw [List.mem_take_iff_getElem]
  constructor
  · rintro ⟨j, hj, hsame⟩
    have := (hl.getElem_inj_iff).mp hsame
    omega
  · exact fun hik => ⟨i, by omega, rfl⟩

theorem mem_chosen (hunterCount : ℤ) (hnodup : members.Nodup)
    (c : Choices (volunteersOf members nominations).length × Choices (othersOf members nominations).length) :
    (∀ i, (volunteersOf members nominations).get (c.1.permutation i) ∈
        chosen members nominations hunterCount c ↔ (i : ℕ) < hunterCount.toNat) ∧
      ∀ j, (othersOf members nominations).get (c.2.permutation j) ∈
        chosen members nominations hunterCount c ↔
          (volunteersOf members nominations).length + j < hunterCount.toNat := by
  have hdisjoint : ∀ p ∈ volunteersOf members nominations, ∀ q ∈ othersOf members nominations, p ≠ q := by
    rintro p hp q hq rfl
    exact (mem_othersOf.mp hq).2 (mem_volunteersOf.mp hp).2
  have hcandidates : ((List.ofFn fun i => (volunteersOf members nominations).get (c.1.permutation i)) ++
      List.ofFn fun i => (othersOf members nominations).get (c.2.permutation i)).Nodup := by
    refine List.nodup_append.mpr ⟨List.nodup_ofFn.mpr ?_, List.nodup_ofFn.mpr ?_, ?_⟩
    · exact (nodup_volunteersOf hnodup).injective_get.comp c.1.permutation.injective
    · exact (nodup_othersOf hnodup).injective_get.comp c.2.permutation.injective
    · intro p hp q hq
      obtain ⟨i, rfl⟩ := List.mem_ofFn.mp hp
      obtain ⟨j, rfl⟩ := List.mem_ofFn.mp hq
      exact hdisjoint _ (List.get_mem _ _) _ (List.get_mem _ _)
  constructor
  · intro i
    rw [← getElem_mem_take hcandidates (by simp only [List.length_append, List.length_ofFn]; omega),
      List.getElem_append_left (by rw [List.length_ofFn]; exact i.isLt), List.getElem_ofFn]
    rfl
  · intro j
    rw [← getElem_mem_take hcandidates (by simp only [List.length_append, List.length_ofFn]; omega),
      List.getElem_append_right (by rw [List.length_ofFn]; omega), List.getElem_ofFn]
    simp only [List.length_ofFn, Nat.add_sub_cancel_left]
    rfl

theorem RolesDrawn.drawn_iff (h : RolesDrawn members nominations hunterCount drawn) (hnodup : members.Nodup)
    (hnames : ∀ p ∈ members, p ≠ "") (hcount : 1 ≤ hunterCount ∧ hunterCount < members.length)
    (c : Choices (volunteersOf members nominations).length × Choices (othersOf members nominations).length) :
    selectRoundRoles members nominations hunterCount (draws c.1 ++ draws c.2) = .ok (drawn, []) ↔
      (∀ i, c.1.permutation i ∈ places (volunteersOf members nominations) (huntersOf drawn) ↔
        (i : ℕ) < hunterCount.toNat) ∧
      ∀ j, c.2.permutation j ∈ places (othersOf members nominations) (huntersOf drawn) ↔
        (volunteersOf members nominations).length + j < hunterCount.toNat := by
  obtain ⟨hvolunteers, hothers⟩ := mem_chosen hunterCount hnodup c
  have hrole (p : String) : roleOf nominations (chosen members nominations hunterCount c) p =
      roleOf nominations (huntersOf drawn) p ↔
        (p ∈ chosen members nominations hunterCount c ↔ p ∈ huntersOf drawn) := by
    have hleft : (roleOf nominations (chosen members nominations hunterCount c) p).role = .hunter ↔
        p ∈ chosen members nominations hunterCount c := roleOf_hunter
    have hright : (roleOf nominations (huntersOf drawn) p).role = .hunter ↔ p ∈ huntersOf drawn :=
      roleOf_hunter
    constructor
    · intro hsame
      rw [← hleft, ← hright, hsame]
    · intro hiff
      simp only [roleOf, hiff]
  have hdrawn : selectRoundRoles members nominations hunterCount (draws c.1 ++ draws c.2) = .ok (drawn, []) ↔
      ∀ p ∈ members, (p ∈ chosen members nominations hunterCount c ↔ p ∈ huntersOf drawn) := by
    rw [selectRoundRoles_draws hnodup hnames hcount, Except.ok.injEq, Prod.mk.injEq, and_iff_left rfl]
    conv_lhs => rw [h.eq_map hnodup]
    rw [List.map_inj_left]
    exact forall₂_congr fun p _ => hrole p
  rw [hdrawn]
  simp only [mem_places]
  constructor
  · intro hmembers
    refine ⟨fun i => ?_, fun j => ?_⟩
    · rw [← hvolunteers i]
      exact (hmembers _ (mem_volunteersOf.mp (List.get_mem _ _)).1).symm
    · rw [← hothers j]
      exact (hmembers _ (mem_othersOf.mp (List.get_mem _ _)).1).symm
  · rintro ⟨hi, hj⟩ p hp
    by_cases hv : p ∈ nominations
    · obtain ⟨i, rfl⟩ := List.get_of_mem (mem_volunteersOf.mpr ⟨hp, hv⟩)
      obtain ⟨i, rfl⟩ := c.1.permutation.surjective i
      rw [hvolunteers i, hi i]
    · obtain ⟨j, rfl⟩ := List.get_of_mem (mem_othersOf.mpr ⟨hp, hv⟩)
      obtain ⟨j, rfl⟩ := c.2.permutation.surjective j
      rw [hothers j, hj j]

/-- **Every hunter assignment has the same chance.** -/
theorem chance_roles (hnodup : members.Nodup) (hnames : ∀ p ∈ members, p ≠ "")
    (hcount : 1 ≤ hunterCount ∧ hunterCount < members.length)
    (h : RolesDrawn members nominations hunterCount drawn)
    (h' : RolesDrawn members nominations hunterCount drawn') :
    chance (fun c : Choices (volunteersOf members nominations).length ×
          Choices (othersOf members nominations).length =>
        selectRoundRoles members nominations hunterCount (draws c.1 ++ draws c.2) = .ok (drawn, [])) =
      chance fun c : Choices (volunteersOf members nominations).length ×
          Choices (othersOf members nominations).length =>
        selectRoundRoles members nominations hunterCount (draws c.1 ++ draws c.2) = .ok (drawn', []) := by
  obtain ⟨hcard, hsum⟩ := h.card_volunteers hnodup
  obtain ⟨hcard', hsum'⟩ := h'.card_volunteers hnodup
  simp only [h.drawn_iff hnodup hnames hcount, h'.drawn_iff hnodup hnames hcount]
  rw [chance_and
      (fun c : Choices (volunteersOf members nominations).length =>
        ∀ i, c.permutation i ∈ places (volunteersOf members nominations) (huntersOf drawn) ↔
          (i : ℕ) < hunterCount.toNat)
      (fun c : Choices (othersOf members nominations).length =>
        ∀ j, c.permutation j ∈ places (othersOf members nominations) (huntersOf drawn) ↔
          (volunteersOf members nominations).length + j < hunterCount.toNat),
    chance_and
      (fun c : Choices (volunteersOf members nominations).length =>
        ∀ i, c.permutation i ∈ places (volunteersOf members nominations) (huntersOf drawn') ↔
          (i : ℕ) < hunterCount.toNat)
      (fun c : Choices (othersOf members nominations).length =>
        ∀ j, c.permutation j ∈ places (othersOf members nominations) (huntersOf drawn') ↔
          (volunteersOf members nominations).length + j < hunterCount.toNat)]
  have hv : (places (volunteersOf members nominations) (huntersOf drawn)).card =
      (places (volunteersOf members nominations) (huntersOf drawn')).card := by omega
  have ho : (places (othersOf members nominations) (huntersOf drawn)).card =
      (places (othersOf members nominations) (huntersOf drawn')).card := by omega
  rw [chance_filled hv, chance_filled ho]

end Roles

/-- **Fair shuffles**: both shuffles map choice sequences one to one onto permutations, so every role
assignment that may be drawn is as likely as any other, and so is every assignment of slots. -/
theorem shuffles_fair :
    ShufflesFairly shuffleStrings ∧ ShufflesFairly shuffleInts ∧
      (∀ (members nominations : List String) (hunterCount : ℤ) (drawn drawn' : List RoundRoleAssignment),
        members.Nodup → (∀ p ∈ members, p ≠ "") → (1 ≤ hunterCount ∧ hunterCount < members.length) →
        RolesDrawn members nominations hunterCount drawn →
        RolesDrawn members nominations hunterCount drawn' →
          chance (fun c : Choices (volunteersOf members nominations).length ×
                Choices (othersOf members nominations).length =>
              selectRoundRoles members nominations hunterCount (draws c.1 ++ draws c.2) =
                .ok (drawn, [])) =
            chance fun c : Choices (volunteersOf members nominations).length ×
                Choices (othersOf members nominations).length =>
              selectRoundRoles members nominations hunterCount (draws c.1 ++ draws c.2) =
                .ok (drawn', [])) ∧
      ∀ assignments seated seated' : List RoundRoleAssignment, hiders assignments ≠ [] →
        SlotsDrawn assignments seated (targetSlots assignments) →
        SlotsDrawn assignments seated' (targetSlots assignments) →
          chance (fun c : Choices (targetSlots assignments) =>
              assignCasualHidingSlots assignments (draws c) = .ok (targetSlots assignments, seated)) =
            chance fun c : Choices (targetSlots assignments) =>
              assignCasualHidingSlots assignments (draws c) = .ok (targetSlots assignments, seated') := by
  refine ⟨shufflesFairly_of_shuffleFrom fun _ _ => rfl, shufflesFairly_of_shuffleFrom fun _ _ => rfl, ?_, ?_⟩
  · intro members nominations hunterCount drawn drawn' hnodup hnames hcount h h'
    exact chance_roles hnodup hnames hcount h h'
  · intro assignments seated seated' hhiders h h'
    exact chance_slots hhiders h h'

/-- Two members and one hunter, none of whom volunteered: either one is as likely to hunt. -/
theorem shuffles_fair_two :
    chance (fun c : Choices (volunteersOf ["ada", "bob"] []).length ×
          Choices (othersOf ["ada", "bob"] []).length =>
        selectRoundRoles ["ada", "bob"] [] 1 (draws c.1 ++ draws c.2) =
          .ok ([⟨"ada", .hunter, false, 0⟩, ⟨"bob", .hider, false, 0⟩], [])) =
      chance fun c : Choices (volunteersOf ["ada", "bob"] []).length ×
          Choices (othersOf ["ada", "bob"] []).length =>
        selectRoundRoles ["ada", "bob"] [] 1 (draws c.1 ++ draws c.2) =
          .ok ([⟨"ada", .hider, false, 0⟩, ⟨"bob", .hunter, false, 0⟩], []) :=
  shuffles_fair.2.2.1 ["ada", "bob"] [] 1 _ _ (by decide) (by decide) (by decide)
    ⟨by decide, by decide, by decide, by decide, by decide, by decide⟩
    ⟨by decide, by decide, by decide, by decide, by decide, by decide⟩

end HiveChameleon.Nakama.Lobby
