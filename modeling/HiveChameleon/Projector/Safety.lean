import HiveChameleon.Projector.Invariant
import HiveChameleon.Projector.Projector

/-!
# Projector.Safety — one projector keeps the projection invariant

`runOnce` against a source that answers anything, in a run of any length, with crashes and lost
connections anywhere.  The store guards every call but one: a revert may name an ancestor above the
cursor.  A single projector never issues one, which is what its program has to be read for.
-/

namespace HiveChameleon.Projector

open Gateway Lib

/-- The one guard that the store leaves to its caller: a revert does not move the cursor up. -/
def revertGuard (source : String) : Request → Db → Prop
  | .revertAfter ancestorBlock, db => ancestorBlock ≤ lastProcessed source db.chain
  | _, _ => True

instance (source : String) (q : Request) (db : Db) : Decidable (revertGuard source q db) := by
  unfold revertGuard; split <;> infer_instance

/-- A request of a projector that does not write. -/
def Request.IsRead : Request → Prop
  | .applyBlock _ _ => False
  | .revertAfter _ => False
  | .finalizeThrough _ => False
  | _ => True

/-- The guarantee of a projector: after each of its requests the invariant holds, and nothing
irreversible has changed. -/
def Kept (source : String) (_ : Request) (db db' : Db) : Prop :=
  Consistent source db'.chain ∧ Frozen db.chain db'.chain

section

variable {R : Runtime} {source : String}

theorem storeAnswer_read {q : Request} (hq : q.IsRead) {db db' : Db}
    {r : Except Failure q.Response} (h : storeAnswer R source q db r db') : db' = db := by
  cases q with
  | getCursor => exact h.1
  | getCurrentCheckpoint => exact h.1
  | getHeadAndIrreversible => exact h
  | getBlock => exact h
  | getOperations => exact h
  | applyBlock => cases hq
  | revertAfter => cases hq
  | finalizeThrough => cases hq

/-- **What a request does to the tables**: nothing, or the write that it asks for. -/
theorem storeAnswer_cases {q : Request} {db db' : Db} {r : Except Failure q.Response}
    (h : storeAnswer R source q db r db') : db' = db ∨
      (∃ block decisions ids time, q = .applyBlock block decisions ∧
        applyBlock R source block decisions ids time db = .ok db') ∨
      (∃ ancestor time, q = .revertAfter ancestor ∧
        revertAfter R source ancestor time db = .ok db') ∨
      ∃ n ids time, q = .finalizeThrough n ∧ finalizeThrough R source n ids time db = .ok db' := by
  cases q with
  | getCursor => exact .inl h.1
  | getCurrentCheckpoint => exact .inl h.1
  | getHeadAndIrreversible => exact .inl h
  | getBlock => exact .inl h
  | getOperations => exact .inl h
  | applyBlock block decisions =>
    obtain ⟨ids, time, hout⟩ := h
    exact hout.db_cases.symm.imp And.left fun hok => .inl ⟨block, decisions, ids, time, rfl, hok⟩
  | revertAfter ancestor =>
    obtain ⟨time, hout⟩ := h
    exact hout.db_cases.symm.imp And.left fun hok => .inr (.inl ⟨ancestor, time, rfl, hok⟩)
  | finalizeThrough n =>
    obtain ⟨ids, time, hout⟩ := h
    exact hout.db_cases.symm.imp And.left fun hok => .inr (.inr ⟨n, ids, time, rfl, hok⟩)

/-- **One store request**: a guarded request keeps the invariant, however it ends. -/
theorem Consistent.answer {q : Request} {db db' : Db} {r : Except Failure q.Response}
    (h : Consistent source db.chain) (hguard : revertGuard source q db)
    (hans : storeAnswer R source q db r db') :
    Consistent source db'.chain ∧ Frozen db.chain db'.chain := by
  rcases storeAnswer_cases hans with
    rfl | ⟨block, decisions, ids, time, rfl, hok⟩ | ⟨ancestor, time, rfl, hok⟩ | ⟨n, ids, time, rfl, hok⟩
  · exact ⟨h, .refl _⟩
  · exact h.applyBlock hok
  · exact h.revertAfter hguard hok
  · exact h.finalizeThrough hok

/-- What `getCursor` returns when no current checkpoint has height zero. -/
theorem getCursor_eq_of_none (db : Db) (hzero : currentCheckpointRow db.chain source 0 = none) :
    getCursor source db = ⟨source, lastProcessed source db.chain,
      (currentCheckpointRow db.chain source (lastProcessed source db.chain)).map (·.blockId),
      lastIrreversible source db.chain⟩ := by
  unfold getCursor
  cases hfind : db.chain.syncCursor.find? source with
  | none =>
    have hlast : lastProcessed source db.chain = 0 := by simp [lastProcessed, hfind]
    simp [initialCursor, hlast, hzero, lastIrreversible, hfind]
  | some row =>
    have hs : row.source = source := (Table.find?_eq_some.mp hfind).2
    simp [cursorFromRow, hs, lastProcessed_of_find hfind, lastIrreversible_of_find hfind]

/-- What `getCursor` returns in a consistent state. -/
theorem getCursor_eq (db : Db) (h : Chained source db.chain) :
    getCursor source db = ⟨source, lastProcessed source db.chain,
      (currentCheckpointRow db.chain source (lastProcessed source db.chain)).map (·.blockId),
      lastIrreversible source db.chain⟩ := by
  refine getCursor_eq_of_none db ?_
  cases hrow : currentCheckpointRow db.chain source 0 with
  | none => rfl
  | some c =>
    obtain ⟨hc, hcur, hn⟩ := (currentCheckpointRow_eq_some h).mp hrow
    have := (h.in_range c hc hcur).1
    omega

/-! ### The program -/

section Program

variable {α : Type} {Q : Except Failure α → Db → Prop} {db : Db}

theorem safe_read {q : Request} {f : q.Response → Proj α} (hq : q.IsRead)
    (h : Consistent source db.chain)
    (hok : ∀ a, (f a).Safe Eq (storeAnswer R source) (Kept source) Q db)
    (herr : ∀ e, Q (.error e) db) :
    ((Prog.request q).bind f).Safe Eq (storeAnswer R source) (Kept source) Q db := by
  refine Prog.safe_request_bind ?_
  rintro _ rfl r db' hans
  obtain rfl := storeAnswer_read hq hans
  refine ⟨⟨h, .refl _⟩, ?_⟩
  cases r with
  | ok a => exact hok a
  | error e => exact herr e

theorem readBlocks_safe (h : Consistent source db.chain) :
    ∀ (count blockNumber : ℕ) (previous : Option HafBlock),
      (readBlocks previous count blockNumber).Safe Eq (storeAnswer R source) (Kept source)
        (fun r db' => db' = db ∧ ∀ blocks, r = .ok blocks →
          blocks.map (·.number) = List.range' blockNumber count) db
  | 0, blockNumber, previous => by
    refine ⟨rfl, ?_⟩
    rintro blocks ⟨⟩
    rfl
  | count + 1, blockNumber, previous => by
    refine safe_read (q := .getBlock blockNumber) trivial h (fun block => ?_) fun e => ⟨rfl, nofun⟩
    split
    · exact ⟨rfl, nofun⟩
    · rename_i hblock
      refine Prog.safe_bind (Prog.safe_mono (readBlocks_safe h count (blockNumber + 1) _) ?_)
      rintro (e | blocks) db' ⟨rfl, hblocks⟩
      · exact ⟨rfl, nofun⟩
      · refine ⟨rfl, ?_⟩
        rintro _ ⟨⟩
        have hnumber : block.number = blockNumber := by
          by_contra hne; exact hblock (.inl hne)
        rw [List.map_cons, hblocks blocks rfl, hnumber, List.range'_succ]

theorem reconcileFrom_safe {cursor : ProjectionCursor} (h : Consistent source db.chain) :
    ∀ (remaining blockNumber : ℕ), blockNumber ≤ lastProcessed source db.chain →
      (reconcileFrom cursor remaining blockNumber).Safe Eq (storeAnswer R source) (Kept source)
        (fun _ _ => True) db
  | 0, blockNumber, _ => trivial
  | remaining + 1, blockNumber, hle => by
    have hrevert : ∀ a, a ≤ lastProcessed source db.chain → (do
        Store.revertAfter a
        pure a : Proj ℕ).Safe Eq (storeAnswer R source) (Kept source) (fun _ _ => True) db := by
      intro a ha
      refine Prog.safe_request_bind ?_
      rintro _ rfl r db' hans
      exact ⟨h.answer (q := .revertAfter a) ha hans, by cases r <;> trivial⟩
    unfold reconcileFrom
    split
    · split
      · trivial
      · exact hrevert 0 (Nat.zero_le _)
    · refine safe_read (q := .getCurrentCheckpoint blockNumber) trivial h (fun stored => ?_)
        fun e => trivial
      refine safe_read (q := .getBlock blockNumber) trivial h (fun current => ?_) fun e => trivial
      split
      · split
        · trivial
        · exact hrevert blockNumber hle
      · split
        · trivial
        · exact reconcileFrom_safe h remaining (blockNumber - 1) (by omega)

theorem reconcileFork_safe {cfg : ProjectorConfig} {cursor : ProjectionCursor} {startHeight : ℕ}
    (h : Consistent source db.chain) (hle : startHeight ≤ lastProcessed source db.chain) :
    (reconcileFork cfg cursor startHeight).Safe Eq (storeAnswer R source) (Kept source)
      (fun _ _ => True) db :=
  reconcileFrom_safe h _ _ hle

theorem safe_then_pure {β : Type} {p : Proj β} {f : β → α}
    (hp : p.Safe Eq (storeAnswer R source) (Kept source) (fun _ _ => True) db) :
    (p.bind fun b => .ret (f b)).Safe Eq (storeAnswer R source) (Kept source)
      (fun _ _ => True) db :=
  Prog.safe_bind (Prog.safe_mono hp fun r _ _ => by cases r <;> trivial)

theorem verifyCurrentTip_safe {cfg : ProjectorConfig} {cursor : ProjectionCursor}
    (h : Consistent source db.chain)
    (hcursor : cursor.lastProcessedBlock = lastProcessed source db.chain) :
    (verifyCurrentTip cfg cursor).Safe Eq (storeAnswer R source) (Kept source)
      (fun r db' => r = .ok none → db' = db) db := by
  unfold verifyCurrentTip
  split
  · exact fun _ => rfl
  · split
    · exact fun _ => rfl
    · refine safe_read (q := .getBlock _) trivial h (fun current => ?_) nofun
      split
      · exact fun _ => rfl
      · refine Prog.safe_bind (Prog.safe_mono (reconcileFork_safe h hcursor.le) ?_)
        rintro (e | a) db' - <;> nofun

/-- The loop over the snapshot: each block it applies moves the stored cursor with the local one, so
the height before a block that does not follow is never above the stored cursor. -/
theorem applyBlocks_safe {cfg : ProjectorConfig} {operations : ℕ → List HafOperation} :
    ∀ (blocks : List HafBlock) (cursor : ProjectionCursor) (appliedBlocks : ℕ) (db : Db),
      Consistent source db.chain → cursor.lastProcessedBlock = lastProcessed source db.chain →
      blocks.map (·.number) = List.range' (cursor.lastProcessedBlock + 1) blocks.length →
      (applyBlocks cfg operations cursor appliedBlocks blocks).Safe Eq (storeAnswer R source)
        (Kept source) (fun _ _ => True) db
  | [], _, _, _, _, _, _ => trivial
  | block :: blocks, cursor, appliedBlocks, db, h, hcursor, hnumbers => by
    rw [List.map_cons, List.length_cons, List.range'_succ, List.cons.injEq] at hnumbers
    obtain ⟨hnumber, hrest⟩ := hnumbers
    unfold applyBlocks
    split
    · exact safe_then_pure (reconcileFork_safe h (by omega))
    · refine Prog.safe_bind (Prog.safe_lift.mpr ?_)
      cases validateBlockOperations cfg block (operations block.number) with
      | error e => trivial
      | ok decisions =>
        refine Prog.safe_request_bind ?_
        rintro _ rfl r db' hans
        obtain ⟨hdb', hfrozen⟩ := h.answer (q := .applyBlock block decisions) trivial hans
        refine ⟨⟨hdb', hfrozen⟩, ?_⟩
        cases r with
        | error e => trivial
        | ok u =>
          obtain ⟨ids, observedAt, hout⟩ := hans
          rcases hout.db_cases with hok | ⟨-, e, he⟩
          · refine applyBlocks_safe blocks _ _ db' hdb' ?_ ?_
            · exact (applyBlock_spec hok).1.processed.symm
            · simpa [hnumber] using hrest
          · cases he

theorem applyThrough_safe {cfg : ProjectorConfig} {cursor : ProjectionCursor} {target : ℕ}
    (h : Consistent source db.chain)
    (hcursor : cursor.lastProcessedBlock = lastProcessed source db.chain) :
    (applyThrough cfg cursor target).Safe Eq (storeAnswer R source) (Kept source)
      (fun _ _ => True) db := by
  unfold applyThrough
  split
  · refine Prog.safe_bind (Prog.safe_mono (readBlocks_safe h _ _ _) ?_)
    rintro (e | beforeOperations) db' ⟨rfl, -⟩
    · trivial
    refine safe_read (q := .getOperations _ _) trivial h (fun operations => ?_) fun _ => trivial
    refine Prog.safe_bind (Prog.safe_mono (readBlocks_safe h _ _ _) ?_)
    rintro (e | afterOperations) db' ⟨rfl, hnumbers⟩
    · trivial
    refine Prog.safe_bind (Prog.safe_lift.mpr ?_)
    cases assertStableSnapshot beforeOperations afterOperations with
    | error e => trivial
    | ok u =>
      refine Prog.safe_bind (Prog.safe_lift.mpr ?_)
      cases groupOperationsByBlock operations with
      | error e => trivial
      | ok operationsByBlock =>
        refine applyBlocks_safe afterOperations cursor 0 _ h hcursor ?_
        have hmap := hnumbers afterOperations rfl
        have hlen := congrArg List.length hmap
        rw [List.length_map, List.length_range'] at hlen
        rw [hmap, hlen]
  · trivial

theorem finalizeCovered_safe {cursor : ProjectionCursor} {sourceHead appliedBlocks : ℕ}
    {sourceIrreversible : HafIrreversibleBlock} (h : Consistent source db.chain) :
    (finalizeCovered cursor sourceHead sourceIrreversible appliedBlocks).Safe Eq
      (storeAnswer R source) (Kept source) (fun _ _ => True) db := by
  have hwrite : ∀ (n : ℕ) (result : HafProjectorRunResult), (do
      Store.finalizeThrough n
      pure result : Proj HafProjectorRunResult).Safe Eq (storeAnswer R source) (Kept source)
        (fun _ _ => True) db := by
    intro n result
    refine Prog.safe_request_bind ?_
    rintro _ rfl r db' hans
    exact ⟨h.answer (q := .finalizeThrough n) trivial hans, by cases r <;> trivial⟩
  have hread : ∀ hafah n, (finalizableBlock hafah sourceIrreversible.number n).Safe Eq
      (storeAnswer R source) (Kept source) (fun _ db' => db' = db) db := by
    intro hafah n
    unfold finalizableBlock
    split
    · rfl
    · refine Prog.safe_request ?_
      rintro _ rfl r db' rfl
      exact ⟨⟨h, .refl _⟩, rfl⟩
  have hagree : ∀ finalizable, (assertFinalityAgreement sourceIrreversible finalizable
      sourceHead).Safe Eq (storeAnswer R source) (Kept source) (fun _ db' => db' = db) db := by
    intro finalizable
    unfold assertFinalityAgreement
    split
    · rfl
    · split
      · rfl
      refine safe_read (q := .getBlock _) trivial h (fun hafah => ?_) fun _ => rfl
      split
      · rfl
      refine safe_read (q := .getCurrentCheckpoint _) trivial h (fun stored => ?_) fun _ => rfl
      refine Prog.safe_bind (Prog.safe_mono (hread hafah finalizable) ?_)
      rintro (e | current) db' rfl
      · rfl
      · dsimp only [Prog.andThen]
        split <;> rfl
  unfold finalizeCovered
  dsimp only
  split
  · refine Prog.safe_bind (Prog.safe_mono (hagree _) ?_)
    rintro (e | u) db' rfl
    · trivial
    · exact hwrite _ _
  · trivial

/-- **A run is safe**: from a consistent database, `runOnce` issues only requests that keep the
invariant, whatever the source answers. -/
theorem runOnce_safe {cfg : ProjectorConfig} (h : Consistent source db.chain) :
    (runOnce cfg).Safe Eq (storeAnswer R source) (Kept source) (fun _ _ => True) db := by
  refine Prog.safe_request_bind ?_
  rintro _ rfl r db' ⟨rfl, hr⟩
  refine ⟨⟨h, .refl _⟩, ?_⟩
  cases r with
  | error e => trivial
  | ok cursor =>
    have hcursor : cursor.lastProcessedBlock = lastProcessed source db'.chain := by
      rcases hr with hr | hr
      · cases hr; rw [getCursor_eq db' h.toChained]
      · cases hr
    refine safe_read (q := .getHeadAndIrreversible) trivial h ?_ fun _ => trivial
    rintro ⟨sourceHead, sourceIrreversible⟩
    dsimp only
    split
    · trivial
    refine Prog.safe_bind (Prog.safe_mono
      (Prog.safe_and (I := fun db => Consistent source db.chain) (fun _ _ _ hG => hG.1) h
        (verifyCurrentTip_safe h hcursor)) ?_)
    rintro (e | tip) db₁ ⟨htip, h₁⟩
    · trivial
    cases tip with
    | some ancestor => trivial
    | none =>
      obtain rfl := htip rfl
      refine Prog.safe_bind (Prog.safe_mono
        (Prog.safe_and (I := fun db => Consistent source db.chain) (fun _ _ _ hG => hG.1) h
          (applyThrough_safe h hcursor)) ?_)
      rintro (e | ⟨cursor', appliedBlocks, reverted⟩) db₂ ⟨-, h₂⟩
      · trivial
      cases reverted with
      | some ancestor => trivial
      | none => exact finalizeCovered_safe h₂

end Program

end

/-! ### Runs of one projector -/

/-- Projector processes on one database. -/
abbrev ProjectorSys (ι : Type) := Sys Request Request.Response Failure HafProjectorRunResult Db ι

/-- One step of the processes, all of them running `runOnce` again and again: a request answered by
the store or, in any way, by the source; or a process started over, after a run or a crash. -/
def ProjectorStep {ι : Type} [DecidableEq ι] (cfg : ProjectorConfig) (source : String) :
    ProjectorSys ι → SysLabel Request Request.Response Failure ι → ProjectorSys ι → Prop :=
  SysStep Eq (storeAnswer cfg.runtime source) fun _ => runOnce cfg

/-- Processes about to start on a fresh database. -/
def ProjectorSys.start {ι : Type} (cfg : ProjectorConfig) (game : GameTables) : ProjectorSys ι :=
  ⟨Db.fresh game, fun _ => runOnce cfg⟩

/-- **The projection invariant of a single projector.**  In every run of one projector against an
arbitrary source the invariant holds after every step, and what was irreversible at any point of
the run is unchanged at its end. -/
theorem single_projector_consistent (cfg : ProjectorConfig) (source : String) (game : GameTables)
    {ts : List (Transition (ProjectorSys Unit) (SysLabel Request Request.Response Failure Unit))}
    {S : ProjectorSys Unit} (h : Run (ProjectorStep cfg source) (.start cfg game) ts S) :
    (Consistent source S.shared.chain ∧ ∀ t ∈ ts, Consistent source t.post.shared.chain) ∧
      ∀ t ∈ ts, Frozen t.pre.shared.chain S.shared.chain := by
  have hstep : ∀ m l m', SysSafe Eq (storeAnswer cfg.runtime source) (Kept source)
      (fun db => Consistent source db.chain) (fun _ _ => True) m →
      ProjectorStep (ι := Unit) cfg source m l m' →
      SysSafe Eq (storeAnswer cfg.runtime source) (Kept source)
        (fun db => Consistent source db.chain) (fun _ _ => True) m' ∧
        Frozen m.shared.chain m'.shared.chain := by
    intro m l m' hm hl
    obtain ⟨hm', hG⟩ := sysSafe_step (fun a b c hab hbc => hab.trans hbc) (fun _ _ _ _ _ => trivial)
      (fun s s' hE hI => hE ▸ hI) (fun q s s' hG _ => hG.1)
      (fun i j _ _ _ hij => absurd (Subsingleton.elim i j) hij)
      (fun _ s hI => runOnce_safe hI) (fun _ => rfl) hm hl
    refine ⟨hm', ?_⟩
    cases hl with
    | env hE => subst hE; exact .refl _
    | answer i hp hans => exact (hG i _ _ rfl).2
    | restart i => exact .refl _
  have hinit : SysSafe Eq (storeAnswer cfg.runtime source) (Kept source)
      (fun db => Consistent source db.chain) (fun _ _ => True)
      (ProjectorSys.start (ι := Unit) cfg game) :=
    ⟨consistent_empty source, fun _ => runOnce_safe (consistent_empty source)⟩
  obtain ⟨hS, hall⟩ := h.invariant' (fun m l m' hm hl => (hstep m l m' hm hl).1) hinit
  refine ⟨⟨hS.1, fun t ht => (hall t ht).2.1⟩, fun t ht => ?_⟩
  obtain ⟨us, vs, rfl, -, hl, hrest⟩ := h.split_of_mem ht
  have htail : Frozen t.post.shared.chain S.shared.chain :=
    hrest.related (R := fun a b : ProjectorSys Unit => Frozen a.shared.chain b.shared.chain)
      (fun _ => .refl _) (fun _ _ _ hab hbc => Frozen.trans hab hbc) hstep (hall t ht).2
  exact (hstep _ _ _ (hall t ht).1 hl).2.trans htail

/-- A runtime that reads no event in any text. -/
def idleRuntime : Runtime where
  safeParse _ := none
  isCanonical _ := true
  jsonb _ := none
  timestamptz _ := some 0
  dateParse _ := 0
  refusal _ := .invalidEvent
  jsonb_eq := nofun
  period_le := nofun

def idleConfig : ProjectorConfig := { runtime := idleRuntime, policy := ⟨[], [], 300000⟩ }

def emptyGame : GameTables := ⟨.empty, .empty, .empty, .empty, .empty, .empty, .empty⟩

/-- One projector that reads two blocks, applies both and finalizes the first: twelve requests. -/
def twoBlocksRun : ProjectorSys Unit :=
  (ProjectorSys.start idleConfig emptyGame).follow (serve idleRuntime "haf")
    (fun _ => runOnce idleConfig)
    (List.replicate 12 ((), (.ofBlocks [⟨1, "b1", "b0", 3⟩, ⟨2, "b2", "b1", 6⟩] 1 [], 1000)))

theorem single_projector_consistent_two_blocks :
    Consistent "haf" twoBlocksRun.shared.chain ∧ lastProcessed "haf" twoBlocksRun.shared.chain = 2 ∧
      lastIrreversible "haf" twoBlocksRun.shared.chain = 1 := by
  have hrun : ∃ ts, Run (ProjectorStep idleConfig "haf") (.start idleConfig emptyGame) ts twoBlocksRun :=
    Sys.follow_run (serve_answers idleRuntime "haf") _ _
  obtain ⟨ts, hts⟩ := hrun
  exact ⟨(single_projector_consistent idleConfig "haf" emptyGame hts).1.1, by decide, by decide⟩

end HiveChameleon.Projector
