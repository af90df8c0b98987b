import HiveChameleon.Projector.Safety

/-!
# Projector.Concurrent — several projectors on one source

Each store call is one transaction under the cursor lock; the reads between them are not.  A fork
search reads checkpoints outside the transaction that performs its revert, so the ancestor it names
may be above the cursor the revert finds.  `applyBlock` and `finalizeThrough` compare their height
with the locked cursor; `revertAfter` compares it with the irreversible height only.
-/

namespace HiveChameleon.Projector

open Gateway Lib

/-- A transition in which a revert took effect although its ancestor was above the cursor. -/
def StaleRevert {ι : Type} (source : String)
    (t : Transition (ProjectorSys ι) (SysLabel Request Request.Response Failure ι)) : Prop :=
  ∃ i ancestorBlock r, t.label = .answer i (.revertAfter ancestorBlock) r ∧
    lastProcessed source t.pre.shared.chain < ancestorBlock ∧ t.post.shared ≠ t.pre.shared

section

variable {ι : Type} [DecidableEq ι] {cfg : ProjectorConfig} {source : String}

theorem consistent_step {m m' : ProjectorSys ι} {l : SysLabel Request Request.Response Failure ι}
    (h : Consistent source m.shared.chain) (hl : ProjectorStep cfg source m l m')
    (hstale : ¬ StaleRevert source ⟨m, l, m'⟩) : Consistent source m'.shared.chain := by
  cases hl with
  | env hE => subst hE; exact h
  | @answer s s' ps i q k r hp hans =>
    by_cases hguard : revertGuard source q s
    · exact (h.answer hguard hans).1
    · cases q with
      | revertAfter ancestorBlock =>
        have hsame : s' = s := by
          by_contra hne
          exact hstale ⟨i, ancestorBlock, r, rfl, not_le.mp hguard, hne⟩
        rw [hsame]; exact h
      | _ => exact absurd trivial hguard
  | restart i => exact h

theorem not_chained_of_stale {m m' : ProjectorSys ι}
    {l : SysLabel Request Request.Response Failure ι} (h : Chained source m.shared.chain)
    (hl : ProjectorStep cfg source m l m') (hstale : StaleRevert source ⟨m, l, m'⟩) :
    ¬ Chained source m'.shared.chain := by
  obtain ⟨i, ancestorBlock, r, hlabel, hlt, hne⟩ := hstale
  cases hl with
  | env hE => cases hlabel
  | restart i => cases hlabel
  | @answer s s' ps i q k r hp hans =>
    cases hlabel
    obtain ⟨revertedAt, hout⟩ := hans
    rcases hout.db_cases with hok | ⟨hsame, -⟩
    · obtain ⟨-, rfl⟩ := revertAfter_spec hok
      intro hchained
      have hprocessed : lastProcessed source (revertedTables source ancestorBlock revertedAt
          (ensureCursor source s.chain)) = ancestorBlock :=
        lastProcessed_revertedTables ensureCursor_find?
      obtain ⟨c, hc, hcur, hn⟩ := hchained.exists_checkpoint ancestorBlock
        (Nat.one_le_of_lt hlt) hprocessed.ge
      obtain ⟨hc, -, -⟩ := mem_revertedTables.mp ⟨hc, hcur⟩
      have hrange := (h.in_range c (by simpa using hc) hcur).2
      exact absurd (hn ▸ hrange) (not_le.mpr hlt)
    · exact absurd hsame hne

/-- **Concurrent projectors.**  Along a run of any number of projectors on one source the current
checkpoints form one hash-linked chain ending at the cursor if and only if no revert took effect
with an ancestor above the cursor it found. -/
theorem concurrent_chained_iff (game : GameTables)
    {ts : List (Transition (ProjectorSys ι) (SysLabel Request Request.Response Failure ι))}
    {S : ProjectorSys ι} (h : Run (ProjectorStep cfg source) (.start cfg game) ts S) :
    (Chained source S.shared.chain ∧ ∀ t ∈ ts, Chained source t.post.shared.chain) ↔
      ∀ t ∈ ts, ¬ StaleRevert source t := by
  constructor
  · rintro ⟨-, hall⟩ t ht hstale
    have hpre := (h.pre_of_post (P := fun m : ProjectorSys ι => Chained source m.shared.chain)
      (consistent_empty source).toChained hall).2
    exact not_chained_of_stale (hpre t ht) (h.step_of_mem t ht) hstale (hall t ht)
  · intro hnone
    obtain ⟨hS, hall⟩ := h.invariant (I := fun m : ProjectorSys ι => Consistent source m.shared.chain)
      (G := fun t => ¬ StaleRevert source t) (fun _ _ _ hm hG hl => consistent_step hm hl hG)
      (consistent_empty source) hnone
    exact ⟨hS.toChained, fun t ht => (hall t ht).2.toChained⟩

end

/-! ### Two projectors during two forks -/

/-- The chain `b1 ← b2 ← b3` and two forks of it, from height 3 and from height 2. -/
def threeBlocks (id₂ id₃ : String) : SourceSnapshot :=
  .ofBlocks [⟨1, "b1", "b0", 3⟩, ⟨2, id₂, "b1", 6⟩, ⟨3, id₃, id₂, 9⟩] 0 []

/-- Process `true` applies three blocks and, after the first fork, finds the ancestor 2; process
`false` meets the second fork and reverts to 1; then `true` reverts to 2 and `false` goes on. -/
def staleRevertSchedule : List (Bool × (SourceSnapshot × Timestamp)) :=
  List.replicate 13 (true, (threeBlocks "b2" "b3", 1000)) ++
    List.replicate 7 (true, (threeBlocks "b2" "c3", 2000)) ++
    List.replicate 10 (false, (threeBlocks "d2" "d3", 3000)) ++
    [(true, (threeBlocks "d2" "d3", 3000))] ++
    List.replicate 7 (false, (threeBlocks "d2" "d3", 4000))

def staleRevertRun : ProjectorSys Bool :=
  (ProjectorSys.start idleConfig emptyGame).follow (serve idleRuntime "haf")
    (fun _ => runOnce idleConfig) staleRevertSchedule

theorem staleRevertRun_run :
    ∃ ts, Run (ProjectorStep idleConfig "haf") (.start idleConfig emptyGame) ts staleRevertRun :=
  Sys.follow_run (serve_answers idleRuntime "haf") staleRevertSchedule _

theorem staleRevertRun_gap : lastProcessed "haf" staleRevertRun.shared.chain = 3 ∧
    ∀ c ∈ staleRevertRun.shared.chain.blockCheckpoint.rows,
      c.Current "haf" → c.blockNumber ≠ 2 := by
  decide

theorem not_chained_staleRevertRun : ¬ Chained "haf" staleRevertRun.shared.chain := by
  intro h
  obtain ⟨hlast, hgap⟩ := staleRevertRun_gap
  obtain ⟨c, hc, hcur, hn⟩ := h.exists_checkpoint 2 (by omega) (by omega)
  exact hgap c hc hcur hn

/-- The run of two projectors that leaves a gap below the cursor. -/
theorem concurrent_projectors_leave_gap :
    ∃ ts, Run (ProjectorStep idleConfig "haf") (.start (ι := Bool) idleConfig emptyGame) ts
        staleRevertRun ∧
      ¬ Chained "haf" staleRevertRun.shared.chain := by
  obtain ⟨ts, hts⟩ := staleRevertRun_run
  exact ⟨ts, hts, not_chained_staleRevertRun⟩

/-- In that run a revert was stale. -/
theorem concurrent_chained_iff_staleRevertRun :
    ∃ ts, Run (ProjectorStep idleConfig "haf") (.start (ι := Bool) idleConfig emptyGame) ts
        staleRevertRun ∧
      ∃ t ∈ ts, StaleRevert "haf" t := by
  obtain ⟨ts, hts⟩ := staleRevertRun_run
  refine ⟨ts, hts, ?_⟩
  by_contra hnone
  have hchained := (concurrent_chained_iff emptyGame hts).mpr fun t ht hstale => hnone ⟨t, ht, hstale⟩
  exact not_chained_staleRevertRun hchained.1

end HiveChameleon.Projector
