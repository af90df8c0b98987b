import HiveChameleon.Lib.HashChain
import HiveChameleon.Projector.Failures
import HiveChameleon.Projector.Safety

/-!
# Projector.Finality — finality against a moving outside

HAfAH and the RPC node as the projector meets them: a hash-linked chain that forks between
requests, and blocks that the RPC node reports irreversible at any time.  Once HAfAH serves such a
block it keeps serving it; nothing else is assumed.  `Anchored` carries what the projector learned
of the outside in one request over to the next.
-/

namespace HiveChameleon.Projector

open Gateway Lib

/-- How blocks name themselves and their parents. -/
def hafLinkage : Linkage HafBlock String := ⟨HafBlock.number, HafBlock.id, HafBlock.previousId⟩

/-! ### The outside -/

/-- A HAfAH snapshot: consecutive, hash-linked blocks of the universe `U`. -/
structure HafahChain (U : HafBlock → Prop) where
  blocks : List HafBlock
  known : ∀ b ∈ blocks, U b
  numbered : blocks.map (·.number) = List.range' 1 blocks.length
  linked : blocks.IsChain fun b c => c.previousId = b.id

theorem HafahChain.isLinked {U : HafBlock → Prop} (c : HafahChain U) :
    hafLinkage.Linked (· ∈ c.blocks) :=
  Linkage.linked_of_list (L := hafLinkage) c.numbered c.linked

/-- The chain that HAfAH serves, and what the RPC node has reported irreversible so far. -/
structure World (U : HafBlock → Prop) where
  hafah : HafahChain U
  reported : List HafIrreversibleBlock

/-- HAfAH serves the reported block. -/
def World.Serves {U : HafBlock → Prop} (w : World U) (r : HafIrreversibleBlock) : Prop :=
  ∃ b ∈ w.hafah.blocks, r = ⟨b.number, some b.id⟩

/-- **How the outside moves**: forks of any depth and new reports, but once HAfAH serves a block
that the RPC node reported irreversible it never leaves it. -/
structure World.Moves {U : HafBlock → Prop} (w w' : World U) : Prop where
  reported : ∀ r ∈ w.reported, r ∈ w'.reported
  served : ∀ r ∈ w.reported, w.Serves r → w'.Serves r

variable {U : HafBlock → Prop}

theorem World.Moves.refl (w : World U) : w.Moves w := ⟨fun _ h => h, fun _ _ h => h⟩

theorem World.Moves.trans {w w' w'' : World U} (h : w.Moves w') (h' : w'.Moves w'') :
    w.Moves w'' where
  reported r hr := h'.reported r (h.reported r hr)
  served r hr hs := h'.served r (h.reported r hr) (h.served r hr hs)

/-- Between two requests the outside moves and the database does not. -/
def Outside (s s' : Db × World U) : Prop := s'.1 = s.1 ∧ s.2.Moves s'.2

/-- How a request is answered: the store on its database, the source from the chain of the moment.
The head and the irreversible block are two reads, with moves before, between and after them. -/
def outsideAnswer (R : Runtime) (source : String) :
    (q : Request) → Db × World U → Except Failure q.Response → Db × World U → Prop
  | .getHeadAndIrreversible, s, r, s' =>
    s'.1 = s.1 ∧ s.2.Moves s'.2 ∧ NoFork r ∧
      ∀ head irreversible, r = .ok (head, irreversible) →
        (∃ w, s.2.Moves w ∧ w.Moves s'.2 ∧ head = w.hafah.blocks.length) ∧
        ∃ w, s.2.Moves w ∧ w.Moves s'.2 ∧ irreversible ∈ w.reported
  | .getBlock n, s, r, s' =>
    s' = s ∧ NoFork r ∧ ∀ b, r = .ok b → b ∈ s.2.hafah.blocks ∧ b.number = n
  | .getOperations _ _, s, r, s' => s' = s ∧ NoFork r
  | .getCursor, s, r, s' => storeAnswer R source .getCursor s.1 r s'.1 ∧ s'.2 = s.2
  | .getCurrentCheckpoint n, s, r, s' =>
    storeAnswer R source (.getCurrentCheckpoint n) s.1 r s'.1 ∧ s'.2 = s.2
  | .applyBlock block decisions, s, r, s' =>
    storeAnswer R source (.applyBlock block decisions) s.1 r s'.1 ∧ s'.2 = s.2
  | .revertAfter n, s, r, s' => storeAnswer R source (.revertAfter n) s.1 r s'.1 ∧ s'.2 = s.2
  | .finalizeThrough n, s, r, s' =>
    storeAnswer R source (.finalizeThrough n) s.1 r s'.1 ∧ s'.2 = s.2

theorem storeAnswer_of_outside {R : Runtime} {source : String} (q : Request) (s : Db × World U)
    (r : Except Failure q.Response) (s' : Db × World U) (h : outsideAnswer R source q s r s') :
    storeAnswer R source q s.1 r s'.1 := by
  cases q with
  | getHeadAndIrreversible => exact h.1
  | getBlock => exact congrArg Prod.fst h.1
  | getOperations => exact congrArg Prod.fst h.1
  | _ => exact h.1

theorem outsideAnswer_moves {R : Runtime} {source : String} {q : Request} {s : Db × World U}
    {r : Except Failure q.Response} {s' : Db × World U} (h : outsideAnswer R source q s r s') :
    s.2.Moves s'.2 := by
  cases q with
  | getHeadAndIrreversible => exact h.2.1
  | getBlock => rw [h.1]; exact .refl _
  | getOperations => rw [h.1]; exact .refl _
  | _ => rw [h.2]; exact .refl _

/-! ### The invariant -/

/-- The block of a checkpoint is on a chain. -/
def OnChain (c : BlockCheckpointRow) (chain : HafahChain U) : Prop :=
  ∃ b ∈ chain.blocks, b.number = c.blockNumber ∧ b.id = c.blockId

/-- The block that a checkpoint was made of. -/
def BlockOf (U : HafBlock → Prop) (c : BlockCheckpointRow) (b : HafBlock) : Prop :=
  U b ∧ b.number = c.blockNumber ∧ b.id = c.blockId ∧ c.previousBlockId = some b.previousId

/-- The current checkpoint at height `n` is on HAfAH's chain, at or below a reported block that
HAfAH serves. -/
def Anchored (source : String) (t : ChainTables) (w : World U) (n : ℕ) : Prop :=
  ∃ r ∈ w.reported, w.Serves r ∧ n ≤ r.number ∧
    ∃ c ∈ t.blockCheckpoint, c.Current source ∧ c.blockNumber = n ∧ OnChain c w.hafah

/-- **The finality invariant**: the projection is consistent, made of blocks of the universe, and
anchored at its irreversible height. -/
structure FinalityInv (source : String) (s : Db × World U) : Prop where
  consistent : Consistent source s.1.chain
  known : ∀ c ∈ s.1.chain.blockCheckpoint, ∃ b, BlockOf U c b
  anchored : 0 < lastIrreversible source s.1.chain →
    Anchored source s.1.chain s.2 (lastIrreversible source s.1.chain)

/-- The checkpoint is on the RPC node's irreversible chain: its block is a reported block or an
ancestor of one. -/
def OnIrreversibleChain (w : World U) (c : BlockCheckpointRow) : Prop :=
  ∃ r ∈ w.reported, ∃ tip, r = ⟨tip.number, some tip.id⟩ ∧
    ∃ b, b.number = c.blockNumber ∧ b.id = c.blockId ∧ hafLinkage.Ancestor U b tip

section

variable {R : Runtime} {source : String} {db db' : Db} {w w' : World U}

theorem Anchored.moves (hU : hafLinkage.Determined U) {t : ChainTables} {n : ℕ}
    (h : Anchored source t w n) (hmoves : w.Moves w') : Anchored source t w' n := by
  obtain ⟨r, hr, hserves, hle, c, hc, hcur, hn, b, hb, hnumber, hid⟩ := h
  obtain ⟨tip, htip, rfl⟩ := hserves
  obtain ⟨tip', htip', heq⟩ := hmoves.served _ hr ⟨tip, htip, rfl⟩
  have htipid : tip.id = tip'.id := Option.some.inj (congrArg HafIrreversibleBlock.id heq)
  obtain ⟨b', hb', hnumber', hid'⟩ := w.hafah.isLinked.agree_below hU w'.hafah.isLinked
    w.hafah.known w'.hafah.known htip htip' htipid hb (by rw [← hn, ← hnumber] at hle; exact hle)
  exact ⟨_, hmoves.reported _ hr, ⟨tip', htip', heq⟩, hle, c, hc, hcur, hn, b', hb',
    hnumber'.trans hnumber, hid'.trans hid⟩

theorem FinalityInv.moves (hU : hafLinkage.Determined U) (h : FinalityInv source (db, w))
    (hmoves : w.Moves w') : FinalityInv source (db, w') :=
  ⟨h.consistent, h.known, fun hpos => (h.anchored hpos).moves hU hmoves⟩

theorem FinalityInv.isLinked {s : Db × World U} (h : FinalityInv source s) : hafLinkage.Linked
    fun b => ∃ c ∈ s.1.chain.blockCheckpoint, c.Current source ∧ BlockOf U c b where
  pos := by
    rintro b ⟨c, hc, hcur, -, hnumber, -⟩
    show 1 ≤ b.number
    rw [hnumber]
    exact (h.consistent.in_range c hc hcur).1
  unique := by
    rintro b b' ⟨c, hc, hcur, -, hnumber, hid, -⟩ ⟨c', hc', hcur', -, hnumber', hid', -⟩ heq
    have hsame := h.consistent.unique_checkpoint c hc c' hc' hcur hcur'
      (hnumber.symm.trans (heq.trans hnumber'))
    exact hid.trans ((congrArg BlockCheckpointRow.blockId hsame).trans hid'.symm)
  parent := by
    rintro b ⟨c, hc, hcur, -, hnumber, -, hprevious⟩ hlt
    have hlt : 1 < b.number := hlt
    have hrange := h.consistent.in_range c hc hcur
    obtain ⟨d, hd, hdcur, hdn⟩ := h.consistent.exists_checkpoint (c.blockNumber - 1)
      (by omega) (by omega)
    obtain ⟨p, hp⟩ := h.known d hd
    have hlinked := h.consistent.linked d hd c hc hdcur hcur (by omega)
    refine ⟨p, ⟨d, hd, hdcur, hp⟩, ?_, ?_⟩
    · show p.number + 1 = b.number
      rw [hp.2.1, hdn]; omega
    · show b.previousId = p.id
      rw [hp.2.2.1]
      exact Option.some.inj (hprevious.symm.trans hlinked)

/-- **Irreversible checkpoints are on the RPC node's irreversible chain.** -/
theorem FinalityInv.onIrreversibleChain (hU : hafLinkage.Determined U)
    (h : FinalityInv source (db, w)) {c : BlockCheckpointRow} (hc : c ∈ db.chain.blockCheckpoint)
    (hsource : c.source = source) (hstate : c.state = .irreversible) :
    OnIrreversibleChain w c := by
  have hcur : c.Current source := ⟨hsource, by rw [hstate]; decide⟩
  have hle := (h.consistent.irreversible_iff c hc hcur).mp hstate
  have hpos := (h.consistent.in_range c hc hcur).1
  obtain ⟨r, hr, ⟨tip, htip, rfl⟩, hler, d, hd, hdcur, hdn, b, hb, hnumber, hid⟩ :=
    h.anchored (Nat.lt_of_lt_of_le hpos hle)
  obtain ⟨x, hx⟩ := h.known c hc
  obtain ⟨y, hy⟩ := h.known d hd
  -- HAfAH agrees with the checkpoints up to the anchored one
  have hlec : hafLinkage.number x ≤ hafLinkage.number y := by
    show x.number ≤ y.number
    rw [hx.2.1, hy.2.1, hdn]; exact hle
  obtain ⟨x', hx', hnumber', hid'⟩ := h.isLinked.agree_below hU w.hafah.isLinked
    (fun _ ⟨_, _, _, hb⟩ => hb.1) w.hafah.known ⟨d, hd, hdcur, hy⟩ hb (hy.2.2.1.trans hid.symm)
    ⟨c, hc, hcur, hx⟩ hlec
  have hlet : hafLinkage.number x' ≤ hafLinkage.number tip := by
    rw [hnumber']
    refine hlec.trans ?_
    show y.number ≤ tip.number
    rw [hy.2.1, hdn]; exact hler
  obtain ⟨a, -, hanumber, haid, hanc⟩ := w.hafah.isLinked.ancestor w.hafah.known hx' htip hlet
  exact ⟨_, hr, tip, rfl, a, hanumber.trans (hnumber'.trans hx.2.1), haid.trans (hid'.trans hx.2.2.1),
    hanc⟩

/-! ### The requests -/

theorem CallOutcome.noFork {result : Except Failure Db} {r : Except Failure Unit}
    (h : CallOutcome result db r db') (hresult : NoFork result) : NoFork r := by
  cases h with
  | committed => exact .ok
  | refused he => exact .error (hresult _ he)
  | unsent => exact .error rfl
  | unacknowledged => exact .error rfl

theorem FinalityInv.carry (h : FinalityInv source (db, w)) (hc : Consistent source db'.chain)
    (hknown : ∀ c' ∈ db'.chain.blockCheckpoint, ∃ b, BlockOf U c' b)
    (hlast : lastIrreversible source db'.chain = lastIrreversible source db.chain)
    (hkept : ∀ c ∈ db.chain.blockCheckpoint, c.Current source →
      c.blockNumber = lastIrreversible source db.chain → c ∈ db'.chain.blockCheckpoint) :
    FinalityInv source (db', w) := by
  refine ⟨hc, hknown, fun hpos => ?_⟩
  have hlast : lastIrreversible source (db', w).1.chain = lastIrreversible source db.chain := hlast
  rw [hlast] at hpos ⊢
  obtain ⟨r, hr, hserves, hle, c, hmem, hcur, hn, hon⟩ := h.anchored hpos
  exact ⟨r, hr, hserves, hle, c, hkept c hmem hcur hn, hcur, hn, hon⟩

theorem FinalityInv.applyBlock {block : HafBlock} {decisions : List OperationDecision}
    {r : Except Failure Unit} (h : FinalityInv source (db, w)) (hblock : U block)
    (hc : Consistent source db'.chain)
    (hans : storeAnswer R source (.applyBlock block decisions) db r db') :
    FinalityInv source (db', w) ∧ NoFork r ∧
      (r = .ok () → lastIrreversible source db'.chain = lastIrreversible source db.chain) := by
  obtain ⟨ids, observedAt, hout⟩ := hans
  refine ⟨?_, hout.noFork (applyBlock_noFork _ _ _ _), ?_⟩
  · rcases hout.db_cases with hok | ⟨rfl, -⟩
    · obtain ⟨ha, -, -⟩ := applyBlock_spec hok
      refine h.carry hc (fun c hmem => ?_) ha.irreversible fun c hmem _ _ =>
        ha.mem_checkpoint.mpr (.inl hmem)
      rcases ha.mem_checkpoint.mp hmem with hmem | rfl
      · exact h.known c hmem
      · exact ⟨block, hblock, rfl, rfl, rfl⟩
    · exact h
  · rintro rfl
    rcases hout.db_cases with hok | ⟨-, e, he⟩
    · exact (applyBlock_spec hok).1.irreversible
    · cases he

theorem BlockOf.of_columns {c c' : BlockCheckpointRow} {b : HafBlock} (h : BlockOf U c b)
    (hn : c'.blockNumber = c.blockNumber) (hid : c'.blockId = c.blockId)
    (hprevious : c'.previousBlockId = c.previousBlockId) : BlockOf U c' b :=
  ⟨h.1, h.2.1.trans hn.symm, h.2.2.1.trans hid.symm, hprevious.trans h.2.2.2⟩

theorem FinalityInv.revertAfter {ancestorBlock : ℕ} {r : Except Failure Unit}
    (h : FinalityInv source (db, w)) (hguard : lastIrreversible source db.chain ≤ ancestorBlock)
    (hc : Consistent source db'.chain)
    (hans : storeAnswer R source (.revertAfter ancestorBlock) db r db') :
    FinalityInv source (db', w) ∧ NoFork r := by
  obtain ⟨revertedAt, hout⟩ := hans
  refine ⟨?_, hout.noFork (revertAfter_noFork hguard _)⟩
  rcases hout.db_cases with hok | ⟨rfl, -⟩
  · obtain ⟨-, rfl⟩ := revertAfter_spec hok
    refine h.carry hc (fun c' hmem => ?_) ?_ fun c hmem hcur hn => ?_
    · rcases Table.mem_modify_cases hmem with ⟨c, hold, -, rfl⟩ | ⟨hold, -⟩
      · obtain ⟨b, hb⟩ := h.known c (by simpa using hold)
        exact ⟨b, hb.of_columns rfl rfl rfl⟩
      · exact h.known c' (by simpa using hold)
    · exact lastIrreversible_revertedTables.trans lastIrreversible_ensureCursor
    · have hmem : c ∈ (ensureCursor source db.chain).blockCheckpoint := by simpa using hmem
      exact (mem_revertedTables.mpr ⟨hmem, hcur, hn.trans_le hguard⟩).1
  · exact h

theorem FinalityInv.finalizeThrough {n : ℕ} {r : Except Failure Unit}
    (h : FinalityInv source (db, w)) (hn : Anchored source db.chain w n)
    (hc : Consistent source db'.chain)
    (hans : storeAnswer R source (.finalizeThrough n) db r db') :
    FinalityInv source (db', w) ∧ NoFork r := by
  obtain ⟨ids, irreversibleAt, hout⟩ := hans
  refine ⟨?_, hout.noFork (finalizeThrough_noFork _ _ _)⟩
  rcases hout.db_cases with hok | ⟨rfl, -⟩
  · obtain ⟨-, hchain, -⟩ := finalizeThrough_spec hok
    have hlast : lastIrreversible source db'.chain = max (lastIrreversible source db.chain) n := by
      rw [hchain, lastIrreversible_finalizedTables ensureCursor_find?, lastIrreversible_ensureCursor]
    -- a checkpoint keeps its height and its block when it is finalized
    have hcarry : ∀ m, Anchored source db.chain w m → Anchored source db'.chain w m := by
      rintro m ⟨r, hr, hserves, hle, c, hmem, hcur, hm, b, hb, hnumber, hid⟩
      refine ⟨r, hr, hserves, hle, finalizedCheckpoint source n irreversibleAt c, ?_,
        (finalizedCheckpoint_current c).mpr hcur, (finalizedCheckpoint_blockNumber c).trans hm, b, hb,
        hnumber.trans (finalizedCheckpoint_blockNumber c).symm,
        hid.trans (finalizedCheckpoint_blockId c).symm⟩
      rw [hchain]
      exact mem_finalizedTables.mpr ⟨c, by simpa using hmem, rfl⟩
    refine ⟨hc, fun c' hmem => ?_, fun hpos => ?_⟩
    · have hmem : c' ∈ db'.chain.blockCheckpoint := hmem
      rw [hchain] at hmem
      obtain ⟨c, hold, rfl⟩ := mem_finalizedTables.mp hmem
      obtain ⟨b, hb⟩ := h.known c (by simpa using hold)
      exact ⟨b, hb.of_columns (finalizedCheckpoint_blockNumber c) (finalizedCheckpoint_blockId c)
        (finalizedCheckpoint_previousBlockId c)⟩
    · show Anchored source db'.chain w (lastIrreversible source db'.chain)
      rw [hlast]
      by_cases hle : lastIrreversible source db.chain ≤ n
      · rw [max_eq_right hle]; exact hcarry n hn
      · rw [max_eq_left (by omega)]
        exact hcarry _ (h.anchored (by show 0 < lastIrreversible source db.chain; omega))
  · exact h

/-! ### The program -/

section Program

variable {α : Type} {Q : Except Failure α → Db × World U → Prop}

/-- A request of the projector leaves the finality invariant. -/
def Keeps (U : HafBlock → Prop) (source : String) (_ : Request) (_ s' : Db × World U) : Prop :=
  FinalityInv source s'

/-- The answers of the outside, after requests that keep the projection invariant. -/
def keptAnswer (R : Runtime) (source : String) (q : Request) (s : Db × World U)
    (r : Except Failure q.Response) (s' : Db × World U) : Prop :=
  outsideAnswer R source q s r s' ∧ Kept source q s.1 s'.1

/-- Safety of a program beside the outside. -/
abbrev FinalitySafe (R : Runtime) (source : String) (p : Proj α)
    (Q : Except Failure α → Db × World U → Prop) (s : Db × World U) : Prop :=
  p.Safe Outside (keptAnswer R source) (Keeps U source) Q s

theorem finalitySafe_getBlock (hU : hafLinkage.Determined U) {n : ℕ} {f : HafBlock → Proj α}
    (h : FinalityInv source (db, w))
    (hok : ∀ w' b, w.Moves w' → FinalityInv source (db, w') → b ∈ w'.hafah.blocks → b.number = n →
      FinalitySafe R source (f b) Q (db, w'))
    (herr : ∀ w' e, w.Moves w' → e.NotFork → Q (.error e) (db, w')) :
    FinalitySafe R source ((Source.getBlock n).bind f) Q (db, w) := by
  refine Prog.safe_request_bind ?_
  rintro ⟨_, w'⟩ ⟨rfl, hmoves⟩ r s' ⟨⟨rfl, hnofork, hb⟩, -⟩
  have hinv := h.moves hU hmoves
  refine ⟨hinv, ?_⟩
  cases r with
  | error e => exact herr w' e hmoves (hnofork e rfl)
  | ok b => exact hok w' b hmoves hinv (hb b rfl).1 (hb b rfl).2

theorem finalitySafe_getCurrentCheckpoint (hU : hafLinkage.Determined U) {n : ℕ}
    {f : Option BlockCheckpoint → Proj α} (h : FinalityInv source (db, w))
    (hok : ∀ w', w.Moves w' → FinalityInv source (db, w') →
      FinalitySafe R source (f (getCurrentCheckpoint source n db)) Q (db, w'))
    (herr : ∀ w' e, w.Moves w' → e.NotFork → Q (.error e) (db, w')) :
    FinalitySafe R source ((Store.getCurrentCheckpoint n).bind f) Q (db, w) := by
  refine Prog.safe_request_bind ?_
  rintro ⟨_, w'⟩ ⟨rfl, hmoves⟩ r ⟨_, w₂⟩ ⟨⟨⟨rfl, hr⟩, hw⟩, -⟩
  obtain rfl : w' = w₂ := hw.symm
  have hinv := h.moves hU hmoves
  refine ⟨hinv, ?_⟩
  rcases hr with rfl | rfl
  · exact hok w' hmoves hinv
  · exact herr w' _ hmoves rfl

theorem getCurrentCheckpoint_eq_some (h : Chained source db.chain) {n : ℕ} {c : BlockCheckpoint} :
    getCurrentCheckpoint source n db = some c ↔ ∃ row ∈ db.chain.blockCheckpoint,
      row.Current source ∧ row.blockNumber = n ∧ checkpointFromRow row = c := by
  simp only [getCurrentCheckpoint, Option.map_eq_some_iff, currentCheckpointRow_eq_some h, and_assoc]

theorem finalitySafe_revertAfter (hU : hafLinkage.Determined U) {a : ℕ}
    (h : FinalityInv source (db, w)) (hguard : lastIrreversible source db.chain ≤ a) :
    FinalitySafe R source (do
      Store.revertAfter a
      pure a) (fun r _ => NoFork r) (db, w) := by
  refine Prog.safe_request_bind ?_
  rintro ⟨_, w'⟩ ⟨rfl, hmoves⟩ r ⟨db', w₂⟩ ⟨⟨hans, hw⟩, hc, -⟩
  obtain rfl : w' = w₂ := hw.symm
  obtain ⟨hinv, hnofork⟩ := (h.moves hU hmoves).revertAfter hguard hc hans
  refine ⟨hinv, ?_⟩
  cases r with
  | error e => exact .error (hnofork e rfl)
  | ok u => exact .ok

/-- The fork search stops at the irreversible height at the latest: HAfAH still serves that
checkpoint. -/
theorem reconcileFrom_finality (hU : hafLinkage.Determined U) {cursor : ProjectionCursor}
    (hcursor : cursor.lastIrreversibleBlock = lastIrreversible source db.chain) :
    ∀ (remaining blockNumber : ℕ) (w : World U), FinalityInv source (db, w) →
      lastIrreversible source db.chain ≤ blockNumber →
      FinalitySafe R source (reconcileFrom cursor remaining blockNumber) (fun r _ => NoFork r) (db, w)
  | 0, _, _, _, _ => .error rfl
  | remaining + 1, blockNumber, w, h, hle => by
    unfold reconcileFrom
    split
    · rename_i hzero
      subst hzero
      rw [if_neg (by omega)]
      exact finalitySafe_revertAfter hU h hle
    · rename_i hzero
      refine finalitySafe_getCurrentCheckpoint hU h (fun w₁ _ h₁ => ?_) fun _ _ _ he => .error he
      refine finalitySafe_getBlock hU h₁ (fun w₂ current _ h₂ hcurrent hnumber => ?_)
        fun _ _ _ he => .error he
      split
      · rw [if_neg (by omega)]
        exact finalitySafe_revertAfter hU h₂ hle
      · rename_i hdiffer
        split
        · rename_i hirr
          -- at the irreversible height the stored checkpoint is HAfAH's block
          have hn : blockNumber = lastIrreversible source db.chain := by omega
          obtain ⟨r, -, -, -, c, hmem, hcur, hcn, b, hb, hbn, hbid⟩ :=
            h₂.anchored (by show 0 < lastIrreversible source db.chain; omega)
          have hstored := (getCurrentCheckpoint_eq_some h.consistent.toChained (n := blockNumber)).mpr
            ⟨c, hmem, hcur, hcn.trans hn.symm, rfl⟩
          have hsame : b.id = current.id := w₂.hafah.isLinked.unique b current hb hcurrent
            (hbn.trans (hcn.trans (hn.symm.trans hnumber.symm)))
          rw [hstored] at hdiffer
          exact absurd (by simpa [checkpointFromRow] using hbid.symm.trans hsame) hdiffer
        · exact reconcileFrom_finality hU hcursor remaining (blockNumber - 1) w₂ h₂ (by omega)

theorem readBlocks_finality (hU : hafLinkage.Determined U) :
    ∀ (count blockNumber : ℕ) (previous : Option HafBlock) (w : World U),
      FinalityInv source (db, w) →
      FinalitySafe R source (readBlocks previous count blockNumber)
        (fun r s => NoFork r ∧ s.1 = db ∧ ∀ blocks, r = .ok blocks →
          ∀ b ∈ blocks, U b ∧ blockNumber ≤ b.number) (db, w)
  | 0, _, _, _, _ => ⟨.ok, rfl, by rintro _ ⟨⟩; simp⟩
  | count + 1, blockNumber, previous, w, h => by
    refine finalitySafe_getBlock hU h (fun w₁ block _ h₁ hblock hnumber => ?_)
      fun _ _ _ he => ⟨.error he, rfl, nofun⟩
    split
    · exact ⟨.error rfl, rfl, nofun⟩
    · refine Prog.safe_bind (Prog.safe_mono (readBlocks_finality hU count (blockNumber + 1) _ w₁ h₁) ?_)
      rintro (e | blocks) s ⟨hnofork, hdb, hblocks⟩
      · exact ⟨.error (hnofork e rfl), hdb, nofun⟩
      · refine ⟨.ok, hdb, ?_⟩
        rintro _ ⟨⟩ b hb
        rcases List.mem_cons.mp hb with rfl | hb
        · exact ⟨w₁.hafah.known _ hblock, hnumber.ge⟩
        · obtain ⟨hknown, hle⟩ := hblocks blocks rfl b hb
          exact ⟨hknown, by omega⟩

theorem validateBlockOperationsFrom_noFork {cfg : ProjectorConfig} (block : HafBlock) :
    ∀ (operations : List HafOperation) (sourceIds : List String),
      NoFork (validateBlockOperationsFrom cfg block sourceIds operations)
  | [], _ => .ok
  | operation :: operations, sourceIds => by
    refine .seq (.require rfl) fun _ => .seq (.require rfl) fun _ =>
      .seq (validateBlockOperationsFrom_noFork block operations _) fun decisions => ?_
    split <;> exact .pure

theorem applyBlocks_finality (hU : hafLinkage.Determined U) {cfg : ProjectorConfig}
    {operations : ℕ → List HafOperation} :
    ∀ (blocks : List HafBlock) (cursor : ProjectionCursor) (appliedBlocks : ℕ) (db : Db) (w : World U),
      FinalityInv source (db, w) →
      cursor.lastIrreversibleBlock = lastIrreversible source db.chain →
      (∀ b ∈ blocks, U b ∧ lastIrreversible source db.chain < b.number) →
      FinalitySafe R source (applyBlocks cfg operations cursor appliedBlocks blocks)
        (fun r _ => NoFork r) (db, w)
  | [], _, _, _, _, _, _, _ => .ok
  | block :: blocks, cursor, appliedBlocks, db, w, h, hcursor, hblocks => by
    obtain ⟨hknown, hlt⟩ := hblocks block List.mem_cons_self
    unfold applyBlocks
    split
    · refine Prog.safe_bind (Prog.safe_mono
        (reconcileFrom_finality hU hcursor _ (block.number - 1) w h (by omega)) ?_)
      rintro (e | a) s hnofork
      · exact .error (hnofork e rfl)
      · exact .ok
    · refine Prog.safe_bind (Prog.safe_lift.mpr ?_)
      cases hdecisions : validateBlockOperations cfg block (operations block.number) with
      | error e => exact .error (validateBlockOperationsFrom_noFork block _ _ e hdecisions)
      | ok decisions =>
        refine Prog.safe_request_bind ?_
        rintro ⟨_, w'⟩ ⟨rfl, hmoves⟩ r ⟨db', w₂⟩ ⟨⟨hans, hw⟩, hc, -⟩
        obtain rfl : w' = w₂ := hw.symm
        obtain ⟨hinv, hnofork, hlast⟩ := (h.moves hU hmoves).applyBlock hknown hc hans
        refine ⟨hinv, ?_⟩
        cases r with
        | error e => exact .error (hnofork e rfl)
        | ok u =>
          refine applyBlocks_finality hU blocks _ _ db' w' hinv (hcursor.trans (hlast rfl).symm) ?_
          intro b hb
          rw [hlast rfl]
          exact hblocks b (List.mem_cons_of_mem _ hb)

theorem verifyCurrentTip_finality (hU : hafLinkage.Determined U) {cfg : ProjectorConfig}
    {cursor : ProjectionCursor} (h : FinalityInv source (db, w))
    (hcursor : cursor.lastIrreversibleBlock = lastIrreversible source db.chain)
    (hle : lastIrreversible source db.chain ≤ cursor.lastProcessedBlock) :
    FinalitySafe R source (verifyCurrentTip cfg cursor)
      (fun r s => NoFork r ∧ (r = .ok none → s.1 = db)) (db, w) := by
  unfold verifyCurrentTip
  split
  · exact ⟨.ok, fun _ => rfl⟩
  · split
    · exact ⟨.ok, fun _ => rfl⟩
    · refine finalitySafe_getBlock hU h (fun w₁ current _ h₁ _ _ => ?_)
        fun _ _ _ he => ⟨.error he, nofun⟩
      split
      · exact ⟨.ok, fun _ => rfl⟩
      · refine Prog.safe_bind (Prog.safe_mono (reconcileFrom_finality hU hcursor _ _ w₁ h₁ hle) ?_)
        rintro (e | a) s hnofork
        · exact ⟨.error (hnofork e rfl), nofun⟩
        · exact ⟨.ok, nofun⟩

theorem groupOperationsByBlock_noFork (operations : List HafOperation) :
    NoFork (groupOperationsByBlock operations) :=
  .seq (.require rfl) fun _ => .pure

theorem assertStableSnapshot_noFork (beforeOperations afterOperations : List HafBlock) :
    NoFork (assertStableSnapshot beforeOperations afterOperations) :=
  .require rfl

theorem applyThrough_finality (hU : hafLinkage.Determined U) {cfg : ProjectorConfig}
    {cursor : ProjectionCursor} {target : ℕ} (h : FinalityInv source (db, w))
    (hcursor : cursor.lastIrreversibleBlock = lastIrreversible source db.chain)
    (hle : lastIrreversible source db.chain ≤ cursor.lastProcessedBlock) :
    FinalitySafe R source (applyThrough cfg cursor target) (fun r _ => NoFork r) (db, w) := by
  have hread : ∀ w, FinalityInv source (db, w) → FinalitySafe R source
      (readBlockSnapshot (cursor.lastProcessedBlock + 1) target)
      (fun r s => (NoFork r ∧ s.1 = db ∧ ∀ blocks, r = .ok blocks →
        ∀ b ∈ blocks, U b ∧ cursor.lastProcessedBlock + 1 ≤ b.number) ∧ FinalityInv source s)
      (db, w) := fun w h =>
    Prog.safe_and (fun _ _ _ hG => hG) h (readBlocks_finality hU _ _ _ w h)
  unfold applyThrough
  split
  · refine Prog.safe_bind (Prog.safe_mono (hread w h) ?_)
    rintro (e | beforeOperations) ⟨db₁, w₁⟩ ⟨⟨hnofork, hdb, -⟩, h₁⟩
    · exact .error (hnofork e rfl)
    obtain rfl : db = db₁ := hdb.symm
    refine Prog.safe_request_bind ?_
    rintro ⟨db₂, w₂⟩ ⟨hdb, hmoves⟩ r s' ⟨⟨rfl, hnofork⟩, -⟩
    obtain rfl : db = db₂ := hdb.symm
    have h₂ := h₁.moves hU hmoves
    refine ⟨h₂, ?_⟩
    cases r with
    | error e => exact .error (hnofork e rfl)
    | ok operations =>
    refine Prog.safe_bind (Prog.safe_mono (hread w₂ h₂) ?_)
    rintro (e | afterOperations) ⟨db₃, w₃⟩ ⟨⟨hnofork, hdb, hblocks⟩, h₃⟩
    · exact .error (hnofork e rfl)
    obtain rfl : db = db₃ := hdb.symm
    refine Prog.safe_bind (Prog.safe_lift.mpr ?_)
    cases hstable : assertStableSnapshot beforeOperations afterOperations with
    | error e => exact .error (assertStableSnapshot_noFork _ _ e hstable)
    | ok u =>
      refine Prog.safe_bind (Prog.safe_lift.mpr ?_)
      cases hgroup : groupOperationsByBlock operations with
      | error e => exact .error (groupOperationsByBlock_noFork operations e hgroup)
      | ok operationsByBlock =>
        refine applyBlocks_finality hU afterOperations cursor 0 _ w₃ h₃ hcursor fun b hb => ?_
        obtain ⟨hknown, hnumber⟩ := hblocks afterOperations rfl b hb
        exact ⟨hknown, by omega⟩
  · exact .ok

/-- **The finality check**: when it passes, the checkpoint at the finalizable height is anchored. -/
theorem assertFinalityAgreement_finality (hU : hafLinkage.Determined U)
    {irreversible : HafIrreversibleBlock} {finalizable sourceHead : ℕ}
    (h : FinalityInv source (db, w)) (hreported : irreversible ∈ w.reported)
    (hle : finalizable ≤ irreversible.number) :
    FinalitySafe R source (assertFinalityAgreement irreversible finalizable sourceHead)
      (fun r s => NoFork r ∧ s.1 = db ∧ (r = .ok () → Anchored source db.chain s.2 finalizable))
      (db, w) := by
  unfold assertFinalityAgreement
  split
  · exact ⟨.error rfl, rfl, nofun⟩
  rename_i irreversibleId hid
  split
  · exact ⟨.error rfl, rfl, nofun⟩
  refine finalitySafe_getBlock hU h (fun w₁ hafahIrreversible hmoves₁ h₁ hmem₁ hnumber₁ => ?_)
    fun _ _ _ he => ⟨.error he, rfl, nofun⟩
  split
  · exact ⟨.error rfl, rfl, nofun⟩
  rename_i hagree
  -- from here on HAfAH serves the reported block
  have hr₁ := hmoves₁.reported _ hreported
  have hserves₁ : w₁.Serves irreversible := by
    refine ⟨hafahIrreversible, hmem₁, ?_⟩
    rw [hnumber₁, not_not.mp hagree, ← hid]
  refine finalitySafe_getCurrentCheckpoint hU h₁ (fun w₂ hmoves₂ h₂ => ?_)
    fun _ _ _ he => ⟨.error he, rfl, nofun⟩
  have hr₂ := hmoves₂.reported _ hr₁
  have hserves₂ := hmoves₂.served _ hr₁ hserves₁
  have hcheck : ∀ (w₃ : World U) (current : HafBlock), irreversible ∈ w₃.reported → w₃.Serves irreversible →
      (∃ b ∈ w₃.hafah.blocks, b.number = finalizable ∧ b.id = current.id) →
      FinalitySafe R source (if ((getCurrentCheckpoint source finalizable db).any fun c =>
          sameBlock c.toHafBlock current) = true then pure () else
          .throw (sourceDivergence
            "Finalizable checkpoint no longer matches the HAfAH block identity"))
        (fun r s => NoFork r ∧ s.1 = db ∧ (r = .ok () → Anchored source db.chain s.2 finalizable))
        (db, w₃) := by
    rintro w₃ current hr hserves ⟨b, hb, hbn, hbid⟩
    split
    · rename_i hsame
      refine ⟨.ok, rfl, fun _ => ?_⟩
      obtain ⟨stored, hstored, hsame⟩ := (Option.any_eq_true _ _).mp hsame
      obtain ⟨c, hc, hcur, hcn, rfl⟩ := (getCurrentCheckpoint_eq_some h.consistent.toChained).mp hstored
      have hsame := of_decide_eq_true hsame
      exact ⟨irreversible, hr, hserves, hle, c, hc, hcur, hcn, b, hb, hbn.trans hcn.symm,
        hbid.trans hsame.2.1.symm⟩
    · exact ⟨.error rfl, rfl, nofun⟩
  unfold finalizableBlock
  split
  · rename_i heq
    obtain ⟨b, hb, hbr⟩ := hserves₂
    refine hcheck w₂ hafahIrreversible hr₂ ⟨b, hb, hbr⟩ ⟨b, hb, ?_, ?_⟩
    · rw [heq, hbr]
    · have := congrArg HafIrreversibleBlock.id hbr
      rw [hid, ← not_not.mp hagree] at this
      exact (Option.some.inj this).symm
  · refine finalitySafe_getBlock hU h₂ (fun w₃ current hmoves₃ h₃ hmem₃ hnumber₃ => ?_)
      fun _ _ _ he => ⟨.error he, rfl, nofun⟩
    exact hcheck w₃ current (hmoves₃.reported _ hr₂) (hmoves₃.served _ hr₂ hserves₂)
      ⟨current, hmem₃, hnumber₃, rfl⟩

theorem finalizeCovered_finality (hU : hafLinkage.Determined U) {cursor : ProjectionCursor}
    {sourceHead appliedBlocks : ℕ} {irreversible : HafIrreversibleBlock}
    (h : FinalityInv source (db, w)) (hreported : irreversible ∈ w.reported) :
    FinalitySafe R source (finalizeCovered cursor sourceHead irreversible appliedBlocks)
      (fun r _ => NoFork r) (db, w) := by
  unfold finalizeCovered
  dsimp only
  split
  · refine Prog.safe_bind (Prog.safe_mono (Prog.safe_and (fun _ _ _ hG => hG) h
      (assertFinalityAgreement_finality hU h hreported (min_le_left _ _))) ?_)
    rintro (e | u) ⟨_, w₁⟩ ⟨⟨hnofork, rfl, hanchored⟩, h₁⟩
    · exact .error (hnofork e rfl)
    refine Prog.safe_request_bind ?_
    rintro ⟨_, w'⟩ ⟨rfl, hmoves⟩ r ⟨db', w₂⟩ ⟨⟨hans, hw⟩, hc, -⟩
    obtain rfl : w' = w₂ := hw.symm
    obtain ⟨hinv, hnofork⟩ := (h₁.moves hU hmoves).finalizeThrough
      ((hanchored rfl).moves hU hmoves) hc hans
    refine ⟨hinv, ?_⟩
    cases r with
    | error e => exact .error (hnofork e rfl)
    | ok u => exact .ok
  · exact .ok

theorem finalitySafe_carry {p : Proj α} {irreversible : HafIrreversibleBlock}
    (h : FinalityInv source (db, w)) (hreported : irreversible ∈ w.reported)
    (hp : FinalitySafe R source p Q (db, w)) :
    FinalitySafe R source p (fun r s => Q r s ∧ FinalityInv source s ∧ irreversible ∈ s.2.reported)
      (db, w) :=
  Prog.safe_mono (Prog.safe_stable (I := fun s => irreversible ∈ s.2.reported)
    (fun _ _ hE => hE.2.reported _) (fun _ _ _ _ hH => (outsideAnswer_moves hH.1).reported _) hreported
    (Prog.safe_and (fun _ _ _ hG => hG) h hp)) fun _ _ hQ => ⟨hQ.1.1, hQ.1.2, hQ.2⟩

/-- **A run beside the outside**: `runOnce` keeps the finality invariant and reports no irreversible
fork. -/
theorem runOnce_finality (hU : hafLinkage.Determined U) {cfg : ProjectorConfig}
    (h : FinalityInv source (db, w)) :
    FinalitySafe R source (runOnce cfg) (fun r _ => NoFork r) (db, w) := by
  refine Prog.safe_request_bind ?_
  rintro ⟨db₀, w'⟩ ⟨hdb, hmoves⟩ r ⟨db₁, w₁⟩ ⟨⟨⟨hdb₁, hr⟩, hw⟩, -⟩
  obtain rfl : db = db₀ := hdb.symm
  obtain rfl : db = db₁ := hdb₁.symm
  obtain rfl : w' = w₁ := hw.symm
  have h₁ := h.moves hU hmoves
  refine ⟨h₁, ?_⟩
  cases r with
  | error e =>
    rcases hr with hr | hr
    · cases hr
    · cases hr; exact .error rfl
  | ok cursor =>
    obtain rfl : cursor = getCursor source db := by
      rcases hr with hr | hr
      · exact Except.ok.inj hr
      · cases hr
    rw [getCursor_eq db h.consistent.toChained]
    refine Prog.safe_request_bind ?_
    rintro ⟨db₂, w₂⟩ ⟨hdb₂, hmoves₂⟩ r ⟨db₃, w₃⟩ ⟨⟨hdb₃, hmoves₃, hnofork, hok⟩, -⟩
    obtain rfl : db = db₂ := hdb₂.symm
    obtain rfl : db = db₃ := hdb₃.symm
    have h₃ := (h₁.moves hU hmoves₂).moves hU hmoves₃
    refine ⟨h₃, ?_⟩
    cases r with
    | error e => exact .error (hnofork e rfl)
    | ok answer =>
    obtain ⟨sourceHead, irreversible⟩ := answer
    obtain ⟨-, w₀, -, hmoves₀, hreported⟩ := hok sourceHead irreversible rfl
    have hreported := hmoves₀.reported _ hreported
    dsimp only [Prog.andThen]
    split
    · exact .ok
    refine Prog.safe_bind (Prog.safe_mono (finalitySafe_carry h₃ hreported
      (verifyCurrentTip_finality hU h₃ rfl h.consistent.irreversible_le)) ?_)
    rintro (e | tip) ⟨db₄, w₄⟩ ⟨⟨hnofork, htip⟩, h₄, hreported₄⟩
    · exact .error (hnofork e rfl)
    cases tip with
    | some ancestor => exact .ok
    | none =>
      obtain rfl : db = db₄ := (htip rfl).symm
      refine Prog.safe_bind (Prog.safe_mono (finalitySafe_carry h₄ hreported₄
        (applyThrough_finality hU h₄ rfl h.consistent.irreversible_le)) ?_)
      rintro (e | ⟨cursor', appliedBlocks, reverted⟩) ⟨db₅, w₅⟩ ⟨hnofork, h₅, hreported₅⟩
      · exact .error (hnofork e rfl)
      cases reverted with
      | some ancestor => exact .ok
      | none => exact finalizeCovered_finality hU h₅ hreported₅

end Program

end

/-! ### Runs beside the outside -/

/-- One projector process beside the outside. -/
abbrev FinalitySys (U : HafBlock → Prop) :=
  Sys Request Request.Response Failure HafProjectorRunResult (Db × World U) Unit

/-- One step: the outside moves, a request is answered, or the process is started over, after a run
or a crash. -/
def FinalityStep (cfg : ProjectorConfig) (source : String) : FinalitySys U →
    SysLabel Request Request.Response Failure Unit → FinalitySys U → Prop :=
  SysStep Outside (outsideAnswer cfg.runtime source) fun _ => runOnce cfg

/-- A process about to start on a fresh database. -/
def FinalitySys.start (cfg : ProjectorConfig) (game : GameTables) (w : World U) : FinalitySys U :=
  ⟨(Db.fresh game, w), fun _ => runOnce cfg⟩

/-- What the process and the state keep. -/
abbrev FinalitySysSafe (U : HafBlock → Prop) (cfg : ProjectorConfig) (source : String)
    (S : FinalitySys U) : Prop :=
  SysSafe Outside (outsideAnswer cfg.runtime source)
    (fun q a b => Kept source q a.1 b.1 ∧ Keeps U source q a b) (FinalityInv source)
    (fun r _ => True ∧ NoFork r) S

theorem finalitySys_main (hU : hafLinkage.Determined U) (cfg : ProjectorConfig) {source : String}
    (s : Db × World U) (h : FinalityInv source s) :
    (runOnce cfg).Safe Outside (outsideAnswer cfg.runtime source)
      (fun q a b => Kept source q a.1 b.1 ∧ Keeps U source q a b) (fun r _ => True ∧ NoFork r) s := by
  have hstore : (runOnce cfg).Safe Eq (storeAnswer cfg.runtime source) (Kept source)
      (fun _ _ => True) s.1 := runOnce_safe h.consistent
  have hkept : (runOnce cfg).Safe Outside (outsideAnswer cfg.runtime source)
      (fun q a b => Kept source q a.1 b.1) (fun _ _ => True) s :=
    Prog.safe_comap (fun _ _ hE => hE.1.symm) storeAnswer_of_outside hstore
  exact Prog.safe_assume hkept (runOnce_finality hU h)

theorem finalitySysSafe_step (hU : hafLinkage.Determined U) {cfg : ProjectorConfig} {source : String}
    (S : FinalitySys U) (l : SysLabel Request Request.Response Failure Unit) (S' : FinalitySys U)
    (hS : FinalitySysSafe U cfg source S) (hstep : FinalityStep cfg source S l S') :
    FinalitySysSafe U cfg source S' := by
  refine (sysSafe_step ?_ (fun _ _ _ _ hQ => hQ) ?_ (fun _ _ _ hG _ => hG.2) ?_
    (fun _ => finalitySys_main hU cfg) (fun s => ⟨rfl, .refl s.2⟩) hS hstep).1
  · exact fun _ _ _ h h' => ⟨h'.1.trans h.1, h.2.trans h'.2⟩
  · rintro ⟨db, w⟩ ⟨db', w'⟩ ⟨hdb, hmoves⟩ h
    obtain rfl : db = db' := hdb.symm
    exact h.moves hU hmoves
  · exact fun i j _ _ _ hij => absurd (Subsingleton.elim i j) hij

theorem finalityInv_fresh (source : String) (game : GameTables) (w : World U) :
    FinalityInv source (Db.fresh game, w) where
  consistent := consistent_empty source
  known := nofun
  anchored hpos := absurd hpos (Nat.lt_irrefl 0)

/-- **Finality safety.**  Block ids determine their ancestors; HAfAH and the RPC node move as they
like, but HAfAH keeps the irreversible blocks it has served.  Then in every state of every run all
irreversible checkpoints are on the RPC node's irreversible chain, and the projector has not
reported an irreversible fork. -/
theorem irreversible_checkpoints_final (cfg : ProjectorConfig) (source : String) (game : GameTables)
    (w : World U) (hU : hafLinkage.Determined U)
    {ts : List (Transition (FinalitySys U) (SysLabel Request Request.Response Failure Unit))}
    {S : FinalitySys U} (h : Run (FinalityStep cfg source) (.start cfg game w) ts S) :
    (∀ c ∈ S.shared.1.chain.blockCheckpoint, c.source = source → c.state = .irreversible →
      OnIrreversibleChain S.shared.2 c) ∧
      ∀ e, S.procs () = .throw e → e.NotFork := by
  have hinit : FinalitySysSafe U cfg source (.start cfg game w) :=
    ⟨finalityInv_fresh source game w, fun _ => finalitySys_main hU cfg _ (finalityInv_fresh ..)⟩
  obtain ⟨⟨hinv, hsafe⟩, -⟩ := h.invariant' (finalitySysSafe_step hU) hinit
  refine ⟨fun c hc hsource hstate => hinv.onIrreversibleChain hU hc hsource hstate, fun e he => ?_⟩
  have hprocess := hsafe ()
  rw [he] at hprocess
  exact hprocess.2 e rfl

/-- The outside answers at once, from the chain as it is. -/
def serveOutside (R : Runtime) (source : String) (time : Timestamp) (q : Request) (s : Db × World U) :
    Except Failure q.Response × (Db × World U) :=
  let unavailable : Failure := .projector .sourceUnavailable "Hive source returned HTTP 404"
  match q with
  | .getHeadAndIrreversible =>
    (match s.2.reported.head? with
      | some irreversible => .ok (s.2.hafah.blocks.length, irreversible)
      | none => .error unavailable, s)
  | .getBlock n =>
    (match s.2.hafah.blocks.find? (·.number = n) with
      | some block => .ok block
      | none => .error unavailable, s)
  | .getOperations _ _ => (.ok [], s)
  | q =>
    let answer := serve R source (.ofBlocks [] 0 [], time) q s.1
    (answer.1, (answer.2, s.2))

theorem serveOutside_answers (R : Runtime) (source : String) (time : Timestamp) (q : Request)
    (s : Db × World U) :
    outsideAnswer R source q s (serveOutside R source time q s).1
      (serveOutside R source time q s).2 := by
  have hserve := serve_answers R source (.ofBlocks [] 0 [], time) q s.1
  cases q with
  | getHeadAndIrreversible =>
    refine ⟨rfl, .refl _, ?_, ?_⟩
    · unfold serveOutside
      dsimp only
      split
      · exact .ok
      · exact .error rfl
    · intro head irreversible hanswer
      simp only [serveOutside] at hanswer
      split at hanswer
      · rename_i hhead
        cases hanswer
        exact ⟨⟨s.2, .refl _, .refl _, rfl⟩, s.2, .refl _, .refl _, List.mem_of_mem_head? hhead⟩
      · cases hanswer
  | getBlock n =>
    refine ⟨rfl, ?_, ?_⟩
    · unfold serveOutside
      dsimp only
      split
      · exact .ok
      · exact .error rfl
    · intro block hanswer
      simp only [serveOutside] at hanswer
      split at hanswer
      · rename_i hfind
        cases hanswer
        have hnumber := List.find?_some hfind
        exact ⟨List.mem_of_find?_eq_some hfind, of_decide_eq_true hnumber⟩
      · cases hanswer
  | getOperations => exact ⟨rfl, .ok⟩
  | _ => exact ⟨hserve, rfl⟩

/-- The blocks of a fork at height two. -/
def forkedBlocks : List HafBlock :=
  [⟨1, "b1", "b0", 3⟩, ⟨2, "b2", "b1", 6⟩, ⟨2, "c2", "b1", 6⟩, ⟨3, "c3", "c2", 9⟩]

theorem forkedBlocks_determined : hafLinkage.Determined (· ∈ forkedBlocks) := by
  have hids : ∀ b ∈ forkedBlocks, ∀ b' ∈ forkedBlocks, b.id = b'.id →
      b.number = b'.number ∧ b.previousId = b'.previousId := by decide
  exact fun b b' hb hb' => hids b hb b' hb'

def beforeFork : World (· ∈ forkedBlocks) where
  hafah := ⟨[⟨1, "b1", "b0", 3⟩, ⟨2, "b2", "b1", 6⟩], by decide, by decide, by decide⟩
  reported := [⟨1, some "b1"⟩]

def afterFork : World (· ∈ forkedBlocks) where
  hafah := ⟨[⟨1, "b1", "b0", 3⟩, ⟨2, "c2", "b1", 6⟩, ⟨3, "c3", "c2", 9⟩], by decide, by decide,
    by decide⟩
  reported := [⟨3, some "c3"⟩, ⟨1, some "b1"⟩]

theorem beforeFork_moves : beforeFork.Moves afterFork where
  reported r hr := List.mem_cons_of_mem _ hr
  served := by
    intro r hr _
    rw [List.mem_singleton.mp hr]
    exact ⟨⟨1, "b1", "b0", 3⟩, by decide, rfl⟩

/-- A number of requests of the process, all answered at once. -/
def answered (S : FinalitySys U) (requests : ℕ) : FinalitySys U :=
  S.follow (serveOutside idleRuntime "haf") (fun _ => runOnce idleConfig)
    (List.replicate requests ((), 1000))

/-- The process applies the two blocks and finalizes the first. -/
def forkSynced : FinalitySys (· ∈ forkedBlocks) :=
  answered (.start idleConfig emptyGame beforeFork) 13

/-- After the fork it reverts to the first block, follows the new chain and finalizes it. -/
def forkResolved : FinalitySys (· ∈ forkedBlocks) :=
  answered ⟨(forkSynced.shared.1, afterFork), forkSynced.procs⟩ 24

theorem irreversible_checkpoints_final_fork :
    (∀ c ∈ forkResolved.shared.1.chain.blockCheckpoint, c.source = "haf" → c.state = .irreversible →
      OnIrreversibleChain forkResolved.shared.2 c) ∧
      (forkResolved.shared.1.chain.blockCheckpoint.rows.map fun c => (c.blockId, c.state)) =
        [("b1", .irreversible), ("b2", .reverted), ("c2", .irreversible), ("c3", .irreversible)] := by
  have hrun : ∀ (requests : ℕ) (S : FinalitySys (· ∈ forkedBlocks)),
      ∃ ts, Run (FinalityStep idleConfig "haf") S ts (answered S requests) := fun _ S =>
    Sys.follow_run (serveOutside_answers idleRuntime "haf") _ S
  obtain ⟨ts, hts⟩ := hrun 13 (FinalitySys.start idleConfig emptyGame beforeFork)
  obtain ⟨us, hus⟩ := hrun 24 ⟨(forkSynced.shared.1, afterFork), forkSynced.procs⟩
  have hfork : FinalityStep idleConfig "haf" forkSynced .env
      ⟨(forkSynced.shared.1, afterFork), forkSynced.procs⟩ := .env ⟨rfl, beforeFork_moves⟩
  exact ⟨(irreversible_checkpoints_final idleConfig "haf" emptyGame beforeFork
    forkedBlocks_determined ((Run.snoc hts hfork).append hus)).1, by decide⟩

end HiveChameleon.Projector
