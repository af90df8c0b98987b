import HiveChameleon.Nakama.Recording

/-!
# Nakama.RoundTicks — `Advance` does not see how often it is called

The loop of `Advance` taken apart at an instant: what it does up to there and what it does from there on.
-/

namespace HiveChameleon.Nakama

namespace CasualRoundState

section

variable {s : CasualRoundState} {now : Time}

theorem advance_of_due (h : s.phase ≠ .terminal ∧ s.phaseDeadline ≤ now) :
    s.advance now = ((s.nextPhase.advance now).1, s.nextPhase.phase :: (s.nextPhase.advance now).2) := by
  rw [advance, ← phasesLeft_nextPhase h.1, advanceFrom, if_pos h]
  rfl

theorem advance_of_not_due (h : ¬ (s.phase ≠ .terminal ∧ s.phaseDeadline ≤ now)) :
    s.advance now = (s, []) := by
  rw [advance]
  cases s.phasesLeft with
  | zero => rfl
  | succ fuel => rw [advanceFrom, if_neg h]

theorem advance_advance {t₁ t₂ : Time} (hle : t₁ ≤ t₂) : ∀ (fuel : ℕ) (s : CasualRoundState),
    s.phasesLeft ≤ fuel →
      ((s.advance t₁).1.advance t₂).1 = (s.advance t₂).1 ∧
        (s.advance t₁).2 ++ ((s.advance t₁).1.advance t₂).2 = (s.advance t₂).2
  | 0, s, hfuel => by
    have hterm : s.phase = .terminal := phase_eq_terminal_of_phasesLeft (by omega)
    have hnot (now : Time) : ¬ (s.phase ≠ .terminal ∧ s.phaseDeadline ≤ now) := fun h => h.1 hterm
    rw [advance_of_not_due (hnot t₁), advance_of_not_due (hnot t₂)]
    exact ⟨rfl, rfl⟩
  | fuel + 1, s, hfuel => by
    by_cases hdue : s.phase ≠ .terminal ∧ s.phaseDeadline ≤ t₁
    · -- what is due at the first tick is due at the second
      have hleft := phasesLeft_nextPhase hdue.1
      obtain ⟨hstate, hphases⟩ := advance_advance hle fuel s.nextPhase (by omega)
      have hlater : s.phase ≠ .terminal ∧ s.phaseDeadline ≤ t₂ := ⟨hdue.1, Int.le_trans hdue.2 hle⟩
      rw [advance_of_due hdue, advance_of_due hlater]
      refine ⟨hstate, ?_⟩
      rw [List.cons_append, hphases]
    · rw [advance_of_not_due hdue]
      exact ⟨rfl, List.nil_append _⟩

theorem nextPhase_frame (s : CasualRoundState) : s.nextPhase = { s with
    phase := s.nextPhase.phase, phaseDeadline := s.nextPhase.phaseDeadline,
    winningSide := s.nextPhase.winningSide, completionReason := s.nextPhase.completionReason } := by
  rw [nextPhase]
  cases s.phase <;> rfl

/-- `Advance` leaves the players, the slots and the discoveries alone. -/
theorem advance_frame (now : Time) : ∀ (fuel : ℕ) (s : CasualRoundState), s.phasesLeft ≤ fuel →
    (s.advance now).1 = { s with
      phase := (s.advance now).1.phase, phaseDeadline := (s.advance now).1.phaseDeadline,
      winningSide := (s.advance now).1.winningSide,
      completionReason := (s.advance now).1.completionReason }
  | 0, s, hfuel => by
    have hterm : s.phase = .terminal := phase_eq_terminal_of_phasesLeft (by omega)
    rw [advance_of_not_due fun h => h.1 hterm]
  | fuel + 1, s, hfuel => by
    by_cases hdue : s.phase ≠ .terminal ∧ s.phaseDeadline ≤ now
    · have hleft := phasesLeft_nextPhase hdue.1
      have hnext := advance_frame now fuel s.nextPhase (by omega)
      rw [advance_of_due hdue, hnext, nextPhase_frame s]
    · rw [advance_of_not_due hdue]

/-- The ticks of a match, with all the phases that they report. -/
def advanceAll : CasualRoundState → List Time → CasualRoundState × List Phase
  | s, [] => (s, [])
  | s, now :: ticks =>
    let rest := advanceAll (s.advance now).1 ticks
    (rest.1, (s.advance now).2 ++ rest.2)

end

theorem advanceAll_eq_advance (s : CasualRoundState) :
    ∀ {ticks : List Time} {last : Time}, (ticks ++ [last]).Pairwise (· ≤ ·) →
      s.advanceAll (ticks ++ [last]) = s.advance last := by
  intro ticks
  induction ticks generalizing s with
  | nil =>
    intro last _
    rw [List.nil_append, advanceAll, advanceAll, List.append_nil]
  | cons now ticks ih =>
    intro last hticks
    rw [List.cons_append, List.pairwise_cons] at hticks
    have hle : now ≤ last := hticks.1 last (List.mem_append_right _ (List.mem_singleton_self _))
    obtain ⟨hstate, hphases⟩ := advance_advance hle _ s le_rfl
    rw [List.cons_append, advanceAll, ih _ hticks.2]
    exact Prod.ext hstate hphases

/-- **Ticks are independent**: one before another changes nothing, so the state after an increasing
sequence of ticks and the phases reported depend on its last tick alone. -/
theorem ticks_are_independent (s : CasualRoundState) :
    (∀ t₁ t₂, t₁ ≤ t₂ →
      ((s.advance t₁).1.advance t₂).1 = (s.advance t₂).1 ∧
        (s.advance t₁).2 ++ ((s.advance t₁).1.advance t₂).2 = (s.advance t₂).2) ∧
    ∀ ticks last, (ticks ++ [last]).Pairwise (· ≤ ·) →
      s.advanceAll (ticks ++ [last]) = s.advance last :=
  ⟨fun _ _ hle => advance_advance hle _ s le_rfl, fun _ _ hticks => s.advanceAll_eq_advance hticks⟩

/-- Three ticks before, on and after the deadlines of a round. -/
theorem ticks_are_independent_three_ticks :
    (unseatedRound threePlayerRound).advanceAll ([1000, 2000001000] ++ [5000000000]) =
      (unseatedRound threePlayerRound).advance 5000000000 :=
  (ticks_are_independent (unseatedRound threePlayerRound)).2 [1000, 2000001000] 5000000000
    (by decide)

end CasualRoundState

end HiveChameleon.Nakama
