import HiveChameleon.Lib.Traces
import HiveChameleon.Projector.Reorg

/-!
# Projector.CatchUp — how far the cycles of a worker get against a source that stands still

A cycle that returns either reverts to the greatest common height or applies and settles what the source
has for it.  So the number of cycles alone decides what the projection holds, until it holds all that the
source has.
-/

namespace HiveChameleon.Projector

open Gateway Lib

/-! ### The chain that a reader sees -/

/-- The two heights and the headers of the current chain. -/
@[ext] structure ChainView where
  processed : ℕ
  irreversible : ℕ
  block : ℕ → Option HafBlock

def chainView (source : String) (db : Db) : ChainView where
  processed := lastProcessed source db.chain
  irreversible := lastIrreversible source db.chain
  block n := (getCurrentCheckpoint source n db).map (·.toHafBlock)

namespace ChainView

def push (v : ChainView) (block : HafBlock) : ChainView :=
  { v with processed := block.number, block := Function.update v.block block.number (some block) }

def cut (v : ChainView) (ancestor : ℕ) : ChainView :=
  { v with processed := ancestor, block := fun n => if n ≤ ancestor then v.block n else none }

def settle (v : ChainView) (height : ℕ) : ChainView :=
  { v with irreversible := max v.irreversible height }

/-- The view with what the source has up to a height. -/
def extend (w : SourceSnapshot) (v : ChainView) (target : ℕ) : ChainView :=
  { v with
    processed := target
    block := fun n => if v.processed < n ∧ n ≤ target then w.block n else v.block n }

/-- What one cycle makes of a view that the source agrees with. -/
def advance (w : SourceSnapshot) (maxBlocksPerRun : ℕ) (v : ChainView) : ChainView :=
  let target := min w.head (v.processed + maxBlocksPerRun)
  (v.extend w target).settle (min w.irreversible.number target)

variable {w : SourceSnapshot} {v : ChainView}

theorem extend_self : v.extend w v.processed = v := by
  refine ChainView.ext rfl rfl (funext fun n => ?_)
  show (if v.processed < n ∧ n ≤ v.processed then w.block n else v.block n) = v.block n
  rw [if_neg (by omega)]

theorem extend_extend {m n : ℕ} (hm : v.processed ≤ m) (hn : m ≤ n) :
    (v.extend w m).extend w n = v.extend w n := by
  refine ChainView.ext rfl rfl (funext fun k => ?_)
  show (if m < k ∧ k ≤ n then w.block k else if v.processed < k ∧ k ≤ m then w.block k else v.block k) =
    if v.processed < k ∧ k ≤ n then w.block k else v.block k
  by_cases hk : m < k ∧ k ≤ n
  · rw [if_pos hk, if_pos (by omega)]
  · rw [if_neg hk]
    by_cases hlow : v.processed < k ∧ k ≤ m
    · rw [if_pos hlow, if_pos (by omega)]
    · rw [if_neg hlow, if_neg (by omega)]

theorem push_eq_extend {block : HafBlock} (hnumber : block.number = v.processed + 1)
    (hblock : w.block (v.processed + 1) = some block) : v.push block = v.extend w (v.processed + 1) := by
  refine ChainView.ext hnumber rfl (funext fun n => ?_)
  show Function.update v.block block.number (some block) n =
    if v.processed < n ∧ n ≤ v.processed + 1 then w.block n else v.block n
  by_cases hn : n = v.processed + 1
  · rw [hn, hnumber, Function.update_self, if_pos (by omega), hblock]
  · rw [Function.update_of_ne (by omega), if_neg (by omega)]

theorem extend_settle {m height : ℕ} : (v.settle height).extend w m = (v.extend w m).settle height := rfl

theorem settle_settle {a b : ℕ} : (v.settle a).settle b = v.settle (max a b) := by
  refine ChainView.ext rfl ?_ rfl
  show max (max v.irreversible a) b = max v.irreversible (max a b)
  rw [max_assoc]

/-- **The cycles add up**: after `k + 1` of them the view has that many runs of blocks more. -/
theorem advance_iterate (hhead : v.processed ≤ w.head) (maxBlocksPerRun k : ℕ) :
    (advance w maxBlocksPerRun)^[k + 1] v =
      (v.extend w (min w.head (v.processed + maxBlocksPerRun * (k + 1)))).settle
        (min w.irreversible.number (min w.head (v.processed + maxBlocksPerRun * (k + 1)))) := by
  induction k with
  | zero => rw [Nat.zero_add, Nat.mul_one]; rfl
  | succ k ih =>
    rw [Function.iterate_succ_apply', ih]
    have hnext : min w.head (min w.head (v.processed + maxBlocksPerRun * (k + 1)) + maxBlocksPerRun) =
        min w.head (v.processed + maxBlocksPerRun * (k + 1 + 1)) := by
      rw [Nat.mul_succ maxBlocksPerRun (k + 1)]
      omega
    have hlow : v.processed ≤ min w.head (v.processed + maxBlocksPerRun * (k + 1)) := by omega
    have hhigh : min w.head (v.processed + maxBlocksPerRun * (k + 1)) ≤ w.head := by omega
    rw [← hnext]
    generalize min w.head (v.processed + maxBlocksPerRun * (k + 1)) = reached at hlow hhigh
    show (((v.extend w reached).settle (min w.irreversible.number reached)).extend w
      (min w.head (reached + maxBlocksPerRun))).settle
        (min w.irreversible.number (min w.head (reached + maxBlocksPerRun))) = _
    rw [extend_settle, extend_extend hlow (by omega), settle_settle]
    congr 1
    omega

end ChainView

/-! ### What the store calls do to the view -/

section Calls

variable {R : Runtime} {source : String} {db db' : Db}

theorem view_block (h : Chained source db.chain) {n : ℕ} {block : HafBlock} :
    (chainView source db).block n = some block ↔
      ∃ c ∈ db.chain.blockCheckpoint, c.Current source ∧ c.blockNumber = n ∧
        (checkpointFromRow c).toHafBlock = block := by
  show ((getCurrentCheckpoint source n db).map (·.toHafBlock)) = some block ↔ _
  rw [getCurrentCheckpoint, Option.map_map, Option.map_eq_some_iff]
  simp only [currentCheckpointRow_eq_some h, and_assoc, Function.comp_apply]

theorem view_block_none (h : Chained source db.chain) {n : ℕ} (hn : lastProcessed source db.chain < n) :
    (chainView source db).block n = none := by
  refine Option.eq_none_iff_forall_ne_some.mpr fun block hblock => ?_
  obtain ⟨c, hc, hcurrent, hnumber, -⟩ := (view_block h).mp hblock
  have := (h.in_range c hc hcurrent).2
  omega

theorem view_applyBlock {block : HafBlock} {decisions : List OperationDecision} {ids : ℕ → Uuid}
    {observedAt : Timestamp} (h : Chained source db.chain)
    (hok : applyBlock R source block decisions ids observedAt db = .ok db') :
    chainView source db' = (chainView source db).push block := by
  obtain ⟨ha, -, -⟩ := applyBlock_spec hok
  refine ChainView.ext ha.processed ha.irreversible (funext fun n => Option.ext fun b => ?_)
  rw [view_block (h.apply ha)]
  show _ ↔ Function.update (chainView source db).block block.number (some block) n = some b
  by_cases hn : n = block.number
  · rw [hn, Function.update_self]
    constructor
    · rintro ⟨c, hc, hcurrent, hnumber, rfl⟩
      rcases ha.mem_checkpoint.mp hc with hc | rfl
      · exact absurd ⟨hcurrent, hnumber⟩ (ha.fresh_height c hc)
      · rfl
    · intro hb
      obtain rfl := Option.some.inj hb
      exact ⟨_, ha.mem_checkpoint.mpr (.inr rfl), ⟨rfl, nofun⟩, rfl, rfl⟩
  · rw [Function.update_of_ne hn, view_block h]
    constructor
    · rintro ⟨c, hc, hcurrent, hnumber, hb⟩
      rcases ha.mem_checkpoint.mp hc with hc | rfl
      · exact ⟨c, hc, hcurrent, hnumber, hb⟩
      · exact absurd hnumber.symm hn
    · rintro ⟨c, hc, hrest⟩
      exact ⟨c, ha.mem_checkpoint.mpr (.inl hc), hrest⟩

theorem view_revertAfter {n : ℕ} {time : Timestamp} (h : Consistent source db.chain)
    (hle : n ≤ lastProcessed source db.chain) (hok : revertAfter R source n time db = .ok db') :
    chainView source db' = (chainView source db).cut n := by
  have hafter := (h.revertAfter hle hok).1.toChained
  obtain ⟨-, rfl⟩ := revertAfter_spec hok
  refine ChainView.ext (lastProcessed_revertedTables ensureCursor_find?)
    (lastIrreversible_revertedTables.trans lastIrreversible_ensureCursor)
    (funext fun m => Option.ext fun b => ?_)
  rw [view_block hafter]
  show _ ↔ (if m ≤ n then (chainView source db).block m else none) = some b
  constructor
  · rintro ⟨c, hc, hcurrent, rfl, hb⟩
    obtain ⟨hc, -, hnumber⟩ := mem_revertedTables.mp ⟨hc, hcurrent⟩
    rw [ensureCursor_blockCheckpoint] at hc
    rw [if_pos hnumber, view_block h.toChained]
    exact ⟨c, hc, hcurrent, rfl, hb⟩
  · intro hb
    split at hb
    · rename_i hm
      obtain ⟨c, hc, hcurrent, rfl, hheader⟩ := (view_block h.toChained).mp hb
      have hopen : c ∈ (ensureCursor source db.chain).blockCheckpoint := by
        rwa [ensureCursor_blockCheckpoint]
      exact ⟨c, (mem_revertedTables.mpr ⟨hopen, hcurrent, hm⟩).1, hcurrent, rfl, hheader⟩
    · cases hb

theorem view_finalizeThrough {n : ℕ} {ids : ℕ → Uuid} {time : Timestamp} (h : Consistent source db.chain)
    (hok : finalizeThrough R source n ids time db = .ok db') :
    chainView source db' = (chainView source db).settle n := by
  have hafter := (h.finalizeThrough hok).1.toChained
  obtain ⟨-, hchain, -⟩ := finalizeThrough_spec hok
  refine ChainView.ext ?_ ?_ (funext fun m => Option.ext fun b => ?_)
  · show lastProcessed source db'.chain = _
    rw [hchain, lastProcessed_finalizedTables, lastProcessed_ensureCursor]
    rfl
  · show lastIrreversible source db'.chain = _
    rw [hchain, lastIrreversible_finalizedTables ensureCursor_find?, lastIrreversible_ensureCursor]
    rfl
  have hheader : ∀ c, (checkpointFromRow (finalizedCheckpoint source n time c)).toHafBlock =
      (checkpointFromRow c).toHafBlock := by
    intro c
    exact Table.updated_eq (g := fun c => (checkpointFromRow c).toHafBlock) (fun _ => rfl) c
  rw [view_block hafter, hchain]
  show _ ↔ (chainView source db).block m = some b
  rw [view_block h.toChained]
  constructor
  · rintro ⟨c', hc', hcurrent, hnumber, hb⟩
    obtain ⟨c, hc, rfl⟩ := mem_finalizedTables.mp hc'
    rw [ensureCursor_blockCheckpoint] at hc
    exact ⟨c, hc, finalizedCheckpoint_current c |>.mp hcurrent,
      (finalizedCheckpoint_blockNumber c).symm.trans hnumber, (hheader c).symm.trans hb⟩
  · rintro ⟨c, hc, hcurrent, hnumber, hb⟩
    have hopen : c ∈ (ensureCursor source db.chain).blockCheckpoint := by
      rwa [ensureCursor_blockCheckpoint]
    exact ⟨_, mem_finalizedTables.mpr ⟨c, hopen, rfl⟩, finalizedCheckpoint_current c |>.mpr hcurrent,
      (finalizedCheckpoint_blockNumber c).trans hnumber, (hheader c).trans hb⟩

end Calls

/-! ### Reading a source that stands still -/

/-- The source has one hash-linked chain, with a block at each height up to its head. -/
structure SourceSnapshot.Linked (w : SourceSnapshot) : Prop where
  complete : w.Complete
  number : ∀ n block, w.block n = some block → block.number = n
  linked : ∀ n block next, 1 ≤ n → w.block n = some block → w.block (n + 1) = some next →
    next.previousId = block.id

/-- The blocks are those of the source from a height on. -/
def SourceSnapshot.Reads (w : SourceSnapshot) : ℕ → List HafBlock → Prop
  | _, [] => True
  | n, block :: blocks => w.block n = some block ∧ w.Reads (n + 1) blocks

section Reading

variable {cfg : ProjectorConfig} {R : Runtime} {source : String} {w : SourceSnapshot} {time : Timestamp}
variable {db db' : Db}

theorem serve_getBlock {n : ℕ} {block : HafBlock} (h : w.block n = some block) :
    serve R source (w, time) (.getBlock n) db = (.ok block, db) := by
  simp only [serve, h]

theorem serve_read (q : Request) (db : Db) (hq : q.IsRead) : (serve R source (w, time) q db).2 = db :=
  storeAnswer_read hq (serve_answers R source (w, time) q db)

theorem exec_readBlocks (hw : w.Linked) : ∀ (count n : ℕ) (previous : Option HafBlock), 1 ≤ n →
    n + count ≤ w.head + 1 → (∀ p ∈ previous, 1 < n ∧ w.block (n - 1) = some p) →
    ∃ blocks, (readBlocks previous count n).exec (serve R source (w, time)) db = (.ok blocks, db) ∧
      w.Reads n blocks ∧ blocks.length = count
  | 0, n, previous, _, _, _ => ⟨[], rfl, trivial, rfl⟩
  | count + 1, n, previous, hpos, hle, hprevious => by
    obtain ⟨block, hblock⟩ := hw.complete n hpos (by omega)
    obtain ⟨blocks, hexec, hreads, hlength⟩ := exec_readBlocks hw count (n + 1) (some block) (by omega)
      (by omega) (fun p hp => by
        obtain rfl := Option.some.inj hp
        exact ⟨by omega, hblock⟩)
    refine ⟨block :: blocks, ?_, ⟨hblock, hreads⟩, by rw [List.length_cons, hlength]⟩
    have hsound : ¬ (block.number ≠ n ∨ (previous.any fun p => block.previousId ≠ p.id) = true) := by
      rintro (hnumber | hany)
      · exact hnumber (hw.number n block hblock)
      · obtain ⟨p, rfl, hne⟩ := Option.any_eq_true _ _ |>.mp hany
        obtain ⟨hlt, hp⟩ := hprevious p rfl
        have hnext : w.block (n - 1 + 1) = some block := by rwa [Nat.sub_add_cancel hpos]
        exact of_decide_eq_true hne (hw.linked (n - 1) p block (by omega) hp hnext)
    rw [readBlocks]
    refine (Prog.exec_request_ok (serve_getBlock hblock)).trans ?_
    rw [if_neg hsound]
    exact (Prog.exec_bind_ok hexec).trans rfl

theorem exec_readBlockSnapshot (hw : w.Linked) {first last : ℕ} (hfirst : 1 ≤ first)
    (hlast : last ≤ w.head) (hle : first ≤ last + 1) :
    ∃ blocks, (readBlockSnapshot first last).exec (serve R source (w, time)) db = (.ok blocks, db) ∧
      w.Reads first blocks ∧ blocks.length = last + 1 - first :=
  exec_readBlocks hw _ first none hfirst (by omega) (fun p hp => by cases hp)

/-! ### The parts of a cycle -/

/-- What holds of every stored projection. -/
structure StoredProjection (R : Runtime) (source : String) (db : Db) : Prop where
  sound : Sound R source db
  rows : RowsChecked db.chain

/-- The tip of the view is a block of the source, or there is none. -/
def ChainView.TipAgrees (w : SourceSnapshot) (v : ChainView) : Prop :=
  v.processed = 0 ∨ ∃ stored block, v.block v.processed = some stored ∧
    w.block v.processed = some block ∧ stored.id = block.id

theorem acknowledged_eq_ok {result : Except Failure Db} (h : acknowledged result db = (.ok (), db')) :
    result = .ok db' := by
  cases result with
  | ok found => rw [(Prod.mk.inj h).2]
  | error e => cases (Prod.mk.inj h).1

theorem getCursor_view (h : Chained source db.chain) : getCursor source db =
    ⟨source, (chainView source db).processed,
      ((chainView source db).block (chainView source db).processed).map (·.id),
      (chainView source db).irreversible⟩ := by
  rw [getCursor_eq db h]
  show (⟨_, _, _, _⟩ : ProjectionCursor) = ⟨_, _, ((getCurrentCheckpoint source _ db).map _).map _, _⟩
  rw [getCurrentCheckpoint, Option.map_map, Option.map_map]
  rfl

/-- Blocks of the source that follow its tip are all applied. -/
theorem exec_applyBlocks (hw : w.Linked) {operations : ℕ → List HafOperation} :
    ∀ {blocks : List HafBlock} {cursor c : ProjectionCursor} {applied a : ℕ} {reverted : Option ℕ}
      {db db' : Db}, StoredProjection cfg.runtime source db →
      w.Reads ((chainView source db).processed + 1) blocks → (chainView source db).TipAgrees w →
      cursor = getCursor source db →
      (applyBlocks cfg operations cursor applied blocks).exec (serve cfg.runtime source (w, time)) db =
        (.ok (c, a, reverted), db') →
      reverted = none ∧ StoredProjection cfg.runtime source db' ∧ c = getCursor source db' ∧
        chainView source db' =
          (chainView source db).extend w ((chainView source db).processed + blocks.length)
  | [], cursor, c, applied, a, reverted, db, db', hs, _, _, hcursor, h => by
    obtain ⟨hresult, rfl⟩ := Prod.mk.inj h
    obtain ⟨rfl, hrest⟩ := Prod.mk.inj (Except.ok.inj hresult)
    obtain ⟨-, rfl⟩ := Prod.mk.inj hrest
    exact ⟨rfl, hs, hcursor, ChainView.extend_self.symm⟩
  | block :: blocks, cursor, c, applied, a, reverted, db, db', hs, ⟨hblock, hreads⟩, htip, hcursor, h => by
    have hview := getCursor_view hs.sound.consistent.toChained
    have hfollows : ¬ (cursor.lastProcessedBlockId ≠ none ∧
        cursor.lastProcessedBlockId ≠ some block.previousId) := by
      rintro ⟨hsome, hother⟩
      rw [hcursor, hview] at hsome hother
      rcases htip with hzero | ⟨stored, found, hstored, hfound, hid⟩
      · refine hsome (Option.map_eq_none_iff.mpr (Option.eq_none_iff_forall_ne_some.mpr ?_))
        intro tip htip
        obtain ⟨row, hrow, hcurrent, hnumber, -⟩ := (view_block hs.sound.consistent.toChained).mp htip
        have := (hs.sound.consistent.toChained.in_range row hrow hcurrent).1
        omega
      · refine hother ?_
        obtain ⟨row, hrow, hcurrent, hnumber, -⟩ := (view_block hs.sound.consistent.toChained).mp hstored
        have hpos := (hs.sound.consistent.toChained.in_range row hrow hcurrent).1
        show Option.map _ ((chainView source db).block (chainView source db).processed) = _
        rw [hstored, Option.map_some, hid, hw.linked _ found block (hnumber ▸ hpos) hfound hblock]
    rw [applyBlocks, if_neg hfollows] at h
    obtain ⟨decisions, m, hlift, h⟩ := Prog.exec_bind_eq_ok.mp h
    obtain ⟨-, rfl⟩ := Prog.exec_lift_eq_ok.mp hlift
    obtain ⟨_, m, happly, hrest⟩ := Prog.exec_request_bind_eq_ok.mp h
    have hok := acknowledged_eq_ok happly
    have hpush := view_applyBlock hs.sound.consistent.toChained hok
    have hs' : StoredProjection cfg.runtime source m := ⟨hs.sound.applyBlock hok, hs.rows.applyBlock hok⟩
    have hnumber : block.number = (chainView source db).processed + 1 := (applyBlock_spec hok).1.number
    have hextend : chainView source m =
        (chainView source db).extend w ((chainView source db).processed + 1) := by
      rw [hpush, ChainView.push_eq_extend hnumber hblock]
    have hprocessed : (chainView source m).processed = (chainView source db).processed + 1 := by
      rw [hextend]
      rfl
    have hblock' : (chainView source m).block ((chainView source db).processed + 1) = some block := by
      rw [hpush, ← hnumber]
      exact Function.update_self ..
    have hcursor' : { cursor with
        lastProcessedBlock := block.number
        lastProcessedBlockId := some block.id } = getCursor source m := by
      rw [getCursor_view hs'.sound.consistent.toChained, hprocessed, hblock', hcursor, hview, hnumber, hpush]
      rfl
    obtain ⟨hnone, hstored, hc, hfinal⟩ := exec_applyBlocks hw hs' (by rwa [hprocessed])
      (.inr ⟨block, block, by rw [hprocessed, hblock'], by rw [hprocessed, hblock], rfl⟩) hcursor' hrest
    have hlength : (chainView source db).processed + 1 + blocks.length =
        (chainView source db).processed + (block :: blocks).length := by
      rw [List.length_cons]
      omega
    refine ⟨hnone, hstored, hc, ?_⟩
    rw [hfinal, hprocessed, hextend, ChainView.extend_extend (Nat.le_succ _) (Nat.le_add_right _ _),
      ← hlength]

theorem exec_applyThrough (hw : w.Linked) {c : ProjectionCursor} {a target : ℕ} {reverted : Option ℕ}
    (hs : StoredProjection cfg.runtime source db) (htip : (chainView source db).TipAgrees w)
    (hle : (chainView source db).processed ≤ target) (htarget : target ≤ w.head)
    (h : (applyThrough cfg (getCursor source db) target).exec (serve cfg.runtime source (w, time)) db =
      (.ok (c, a, reverted), db')) :
    reverted = none ∧ StoredProjection cfg.runtime source db' ∧ c = getCursor source db' ∧
      chainView source db' = (chainView source db).extend w target := by
  have hlast : (getCursor source db).lastProcessedBlock = (chainView source db).processed := by
    rw [getCursor_view hs.sound.consistent.toChained]
  rw [applyThrough, hlast] at h
  by_cases hlt : (chainView source db).processed < target
  · rw [if_pos hlt] at h
    obtain ⟨blocks, hread, hreads, hlength⟩ : ∃ blocks,
        (readBlockSnapshot ((chainView source db).processed + 1) target).exec
          (serve cfg.runtime source (w, time)) db = (.ok blocks, db) ∧
        w.Reads ((chainView source db).processed + 1) blocks ∧
        blocks.length = target + 1 - ((chainView source db).processed + 1) :=
      exec_readBlockSnapshot hw (by omega) htarget (by omega)
    have hoperations := (Prog.exec_bind_ok hread).symm.trans h
    obtain ⟨operations, m, hrange, hagain⟩ := Prog.exec_request_bind_eq_ok.mp hoperations
    obtain rfl : db = m := (Prod.mk.inj hrange).2
    have hstable := (Prog.exec_bind_ok hread).symm.trans hagain
    obtain ⟨_, m, hsame, hgroup⟩ := Prog.exec_bind_eq_ok.mp hstable
    obtain ⟨-, rfl⟩ := Prog.exec_lift_eq_ok.mp hsame
    obtain ⟨byBlock, m, hgrouped, happly⟩ := Prog.exec_bind_eq_ok.mp hgroup
    obtain ⟨-, rfl⟩ := Prog.exec_lift_eq_ok.mp hgrouped
    have hend := exec_applyBlocks hw hs hreads htip rfl happly
    rwa [hlength, show (chainView source db).processed +
      (target + 1 - ((chainView source db).processed + 1)) = target by omega] at hend
  · rw [if_neg hlt] at h
    obtain ⟨hresult, rfl⟩ := Prod.mk.inj h
    obtain ⟨rfl, hrest⟩ := Prod.mk.inj (Except.ok.inj hresult)
    obtain ⟨-, rfl⟩ := Prod.mk.inj hrest
    obtain rfl : (chainView source db).processed = target := by omega
    exact ⟨rfl, hs, rfl, ChainView.extend_self.symm⟩

/-- The requests of `assertFinalityAgreement` read. -/
theorem only_assertFinalityAgreement {irreversible : HafIrreversibleBlock} {finalizable head : ℕ} :
    Prog.Only Request.IsRead (assertFinalityAgreement irreversible finalizable head) := by
  unfold assertFinalityAgreement
  split
  · exact Prog.only_throw
  · refine Prog.only_ite Prog.only_throw ?_
    refine Prog.only_bind (Prog.only_request trivial) fun block => ?_
    refine Prog.only_ite Prog.only_throw ?_
    refine Prog.only_bind (Prog.only_request trivial) fun stored => ?_
    refine Prog.only_bind ?_ fun current => Prog.only_ite Prog.only_ret Prog.only_throw
    exact Prog.only_ite Prog.only_ret (Prog.only_request trivial)

theorem exec_finalizeCovered {head applied : ℕ} {result : HafProjectorRunResult}
    (hs : StoredProjection cfg.runtime source db)
    (h : (finalizeCovered (getCursor source db) head w.irreversible applied).exec
      (serve cfg.runtime source (w, time)) db = (.ok result, db')) :
    StoredProjection cfg.runtime source db' ∧ chainView source db' = (chainView source db).settle
      (min w.irreversible.number (chainView source db).processed) := by
  rw [finalizeCovered, getCursor_view hs.sound.consistent.toChained] at h
  by_cases hlt : (chainView source db).irreversible <
      min w.irreversible.number (chainView source db).processed
  · rw [if_pos hlt] at h
    obtain ⟨_, m, hassert, hfinalize⟩ := Prog.exec_bind_eq_ok.mp h
    obtain rfl : m = db := by
      have hread : ((assertFinalityAgreement w.irreversible
          (min w.irreversible.number (chainView source db).processed) head).exec
            (serve cfg.runtime source (w, time)) db).2 = db :=
        Prog.exec_only (fun q db hq => serve_read q db hq) only_assertFinalityAgreement
      rw [hassert] at hread
      exact hread
    obtain ⟨_, m', hrequest, hrest⟩ := Prog.exec_request_bind_eq_ok.mp hfinalize
    obtain ⟨-, rfl⟩ := Prod.mk.inj hrest
    have hok := acknowledged_eq_ok hrequest
    exact ⟨⟨hs.sound.finalizeThrough hok, hs.rows.finalizeThrough hok⟩,
      view_finalizeThrough hs.sound.consistent hok⟩
  · rw [if_neg hlt] at h
    obtain ⟨-, rfl⟩ := Prod.mk.inj h
    refine ⟨hs, ChainView.ext rfl ?_ rfl⟩
    exact (max_eq_left (not_lt.mp hlt)).symm

/-- A search that returns has reverted to its result, not above where it started. -/
theorem exec_reconcileFrom {cursor : ProjectionCursor} {ancestor : ℕ} : ∀ {remaining blockNumber : ℕ},
    (reconcileFrom cursor remaining blockNumber).exec (serve R source (w, time)) db = (.ok ancestor, db') →
      ancestor ≤ blockNumber ∧ revertAfter R source ancestor time db = .ok db'
  | 0, _, h => by cases (Prod.mk.inj h).1
  | remaining + 1, blockNumber, h => by
    have hrevert : ∀ {n : ℕ}, (do
        Store.revertAfter n
        pure n : Proj ℕ).exec (serve R source (w, time)) db = (.ok ancestor, db') →
        n = ancestor ∧ revertAfter R source ancestor time db = .ok db' := by
      intro n h
      obtain ⟨_, m, hrequest, hrest⟩ := Prog.exec_request_bind_eq_ok.mp h
      obtain ⟨hsame, rfl⟩ := Prod.mk.inj hrest
      obtain rfl := Except.ok.inj hsame
      exact ⟨rfl, acknowledged_eq_ok hrequest⟩
    rw [reconcileFrom] at h
    split at h
    · split at h
      · cases (Prod.mk.inj h).1
      · obtain ⟨rfl, hok⟩ := hrevert h
        exact ⟨Nat.zero_le _, hok⟩
    · obtain ⟨stored, m, hstored, h⟩ := Prog.exec_request_bind_eq_ok.mp h
      obtain rfl : db = m := (Prod.mk.inj hstored).2
      obtain ⟨current, m, hcurrent, h⟩ := Prog.exec_request_bind_eq_ok.mp h
      obtain rfl : db = m := by
        have hread : (serve R source (w, time) (.getBlock blockNumber) db).2 = db :=
          serve_read (.getBlock blockNumber) db trivial
        rw [hcurrent] at hread
        exact hread.symm
      split at h
      · split at h
        · cases (Prod.mk.inj h).1
        · obtain ⟨rfl, hok⟩ := hrevert h
          exact ⟨le_rfl, hok⟩
      · split at h
        · cases (Prod.mk.inj h).1
        · obtain ⟨hle, hok⟩ := exec_reconcileFrom h
          exact ⟨by omega, hok⟩

/-- A search from the cursor that returns found the greatest common height within its depth. -/
theorem exec_reconcileFork (hw : w.Linked) (hs : StoredProjection cfg.runtime source db)
    (hhead : (chainView source db).processed ≤ w.head) {ancestor : ℕ}
    (h : (reconcileFork cfg (getCursor source db) (chainView source db).processed).exec
      (serve cfg.runtime source (w, time)) db = (.ok ancestor, db')) :
    IsGreatest (commonHeights w source db) ancestor ∧
      (chainView source db).processed - ancestor ≤ cfg.maxReorgDepth ∧
      StoredProjection cfg.runtime source db' ∧
      chainView source db' = (chainView source db).cut ancestor := by
  have hchained := hs.sound.consistent.toChained
  obtain ⟨hle, hok⟩ := exec_reconcileFrom h
  have hends := reconcileFrom_ends time hs.sound hs.rows hw.complete hhead
    (show (getCursor source db).lastIrreversibleBlock = lastIrreversible source db.chain by
      rw [getCursor_eq db hchained])
    ((chainView source db).processed - ((chainView source db).processed - cfg.maxReorgDepth) + 1)
    (chainView source db).processed le_rfl hs.sound.consistent.irreversible_le
  have hall : commonHeights w source db ∩ Set.Iic (chainView source db).processed =
      commonHeights w source db :=
    Set.inter_eq_left.mpr fun n hn => le_of_mem_commonHeights hchained hn
  rw [hall] at hends
  obtain ⟨n, hn, hlow⟩ : ∃ n, IsGreatest (commonHeights w source db) n ∧
      (chainView source db).processed + 1 - ((chainView source db).processed -
        ((chainView source db).processed - cfg.maxReorgDepth) + 1) ≤ n := by
    by_contra hnone
    obtain ⟨e, hexec, -⟩ := hends.missed fun n hn => by
      by_contra hge
      exact hnone ⟨n, hn, not_lt.mp hge⟩
    have herror := h.symm.trans hexec
    cases (Prod.mk.inj herror).1
  obtain ⟨db'', hexec, -⟩ := hends.found n hn hlow
  obtain rfl : ancestor = n := Except.ok.inj (Prod.mk.inj (h.symm.trans hexec)).1
  exact ⟨hn, by omega, ⟨hs.sound.revertAfter hle hok, hs.rows.revertAfter hok⟩,
    view_revertAfter hs.sound.consistent hle hok⟩

/-- The tip is common exactly when the view agrees about it. -/
theorem tipAgrees_iff (hs : StoredProjection R source db) :
    (chainView source db).TipAgrees w ↔ lastProcessed source db.chain ∈ commonHeights w source db := by
  constructor
  · intro h
    refine ⟨hs.sound.consistent.irreversible_le, h.imp id ?_⟩
    rintro ⟨stored, block, hstored, hblock, hid⟩
    obtain ⟨row, hrow, rfl⟩ := Option.map_eq_some_iff.mp hstored
    exact ⟨row, block, hrow, hblock, hid⟩
  · rintro ⟨-, h⟩
    refine h.imp id ?_
    rintro ⟨row, block, hrow, hblock, hid⟩
    refine ⟨row.toHafBlock, block, ?_, hblock, hid⟩
    show (getCurrentCheckpoint source (lastProcessed source db.chain) db).map _ = _
    rw [hrow]
    rfl

/-- The check of the tip finds it in place, or it ends in a revert. -/
theorem exec_verifyCurrentTip (hw : w.Linked) (hs : StoredProjection cfg.runtime source db)
    (hhead : (chainView source db).processed ≤ w.head) {reverted : Option ℕ}
    (h : (verifyCurrentTip cfg (getCursor source db)).exec (serve cfg.runtime source (w, time)) db =
      (.ok reverted, db')) :
    (reverted = none ∧ db' = db ∧ (chainView source db).TipAgrees w) ∨
      ∃ ancestor, reverted = some ancestor ∧ ¬ (chainView source db).TipAgrees w ∧
        (reconcileFork cfg (getCursor source db) (chainView source db).processed).exec
          (serve cfg.runtime source (w, time)) db = (.ok ancestor, db') := by
  have hview := getCursor_view hs.sound.consistent.toChained
  have hkept : ∀ {x : Option ℕ}, (pure none : Proj (Option ℕ)).exec (serve cfg.runtime source (w, time)) db =
      (.ok x, db') → x = none ∧ db' = db := by
    intro x hx
    obtain ⟨hsame, rfl⟩ := Prod.mk.inj hx
    exact ⟨(Except.ok.inj hsame).symm, rfl⟩
  rw [verifyCurrentTip] at h
  split at h
  · -- no checkpoint at the cursor, so nothing is processed
    rename_i hnone
    obtain ⟨hreverted, hdb⟩ := hkept h
    refine .inl ⟨hreverted, hdb, .inl ?_⟩
    rw [hview] at hnone
    by_contra hpos
    obtain ⟨row, hrow, hcurrent, hnumber⟩ := hs.sound.consistent.toChained.exists_checkpoint
      (chainView source db).processed (Nat.one_le_iff_ne_zero.mpr hpos) le_rfl
    have hblock := (view_block hs.sound.consistent.toChained).mpr ⟨row, hrow, hcurrent, hnumber, rfl⟩
    rw [hblock] at hnone
    cases hnone
  · rename_i id hid
    rw [hview] at hid h
    obtain ⟨stored, hstored, rfl⟩ := Option.map_eq_some_iff.mp hid
    by_cases hzero : (chainView source db).processed = 0
    · rw [if_pos hzero] at h
      obtain ⟨hreverted, hdb⟩ := hkept h
      exact .inl ⟨hreverted, hdb, .inl hzero⟩
    · rw [if_neg hzero] at h
      obtain ⟨block, hblock⟩ := hw.complete _ (Nat.one_le_iff_ne_zero.mpr hzero) hhead
      have htip := (Prog.exec_request_ok (serve_getBlock hblock)).symm.trans h
      by_cases hsame : block.id = stored.id
      · rw [if_pos hsame] at htip
        obtain ⟨hreverted, hdb⟩ := hkept htip
        exact .inl ⟨hreverted, hdb, .inr ⟨stored, block, hstored, hblock, hsame.symm⟩⟩
      · rw [if_neg hsame, ← hview] at htip
        obtain ⟨ancestor, m, hsearch, hrest⟩ := Prog.exec_bind_eq_ok.mp htip
        obtain ⟨hreverted, rfl⟩ := Prod.mk.inj hrest
        have hlast : (getCursor source db).lastProcessedBlock = (chainView source db).processed := by
          rw [hview]
        rw [hlast] at hsearch
        refine .inr ⟨ancestor, (Except.ok.inj hreverted).symm, ?_, hsearch⟩
        rintro (hnothing | ⟨stored', block', hstored', hblock', hid'⟩)
        · exact hzero hnothing
        · obtain rfl := Option.some.inj (hstored.symm.trans hstored')
          obtain rfl := Option.some.inj (hblock.symm.trans hblock')
          exact hsame hid'.symm

end Reading

/-! ### Cycles -/

section Cycles

variable {cfg : ProjectorConfig} {source : String} {w : SourceSnapshot} {time : Timestamp} {db db' : Db}

/-- A view whose tip the source has is advanced; another one is cut down to the greatest common height. -/
def Advances (cfg : ProjectorConfig) (source : String) (w : SourceSnapshot) (db db' : Db) : Prop :=
  StoredProjection cfg.runtime source db' ∧
    ((chainView source db).TipAgrees w ∧
        chainView source db' = (chainView source db).advance w cfg.maxBlocksPerRun ∨
      ¬ (chainView source db).TipAgrees w ∧ ∃ ancestor,
        IsGreatest (commonHeights w source db) ancestor ∧
        (chainView source db).processed - ancestor ≤ cfg.maxReorgDepth ∧
        chainView source db' = (chainView source db).cut ancestor)

/-- **One `runOnce`** that returns advances the view or cuts it down. -/
theorem exec_runOnce (hw : w.Linked) (hs : StoredProjection cfg.runtime source db)
    (hhead : (chainView source db).processed ≤ w.head) {result : HafProjectorRunResult}
    (h : (runOnce cfg).exec (serve cfg.runtime source (w, time)) db = (.ok result, db')) :
    Advances cfg source w db db' := by
  have hview := getCursor_view hs.sound.consistent.toChained
  rw [runOnce] at h
  obtain ⟨cursor, m, hcursor, h⟩ := Prog.exec_request_bind_eq_ok.mp h
  obtain ⟨hsame, rfl⟩ := Prod.mk.inj hcursor
  obtain rfl := Except.ok.inj hsame
  obtain ⟨⟨head, irreversible⟩, m, hheads, h⟩ := Prog.exec_request_bind_eq_ok.mp h
  obtain ⟨hsame, rfl⟩ := Prod.mk.inj hheads
  obtain ⟨rfl, rfl⟩ := Prod.mk.inj (Except.ok.inj hsame)
  have hlast : (getCursor source db).lastProcessedBlock = (chainView source db).processed := by
    rw [hview]
  have hreaches : ¬ w.head < (getCursor source db).lastProcessedBlock := by
    rw [hlast]
    exact not_lt.mpr hhead
  change (if w.head < (getCursor source db).lastProcessedBlock then _ else _ : Proj _).exec _ _ = _ at h
  rw [if_neg hreaches] at h
  obtain ⟨reverted, m, htip, h⟩ := Prog.exec_bind_eq_ok.mp h
  rcases exec_verifyCurrentTip hw hs hhead htip with
    ⟨rfl, rfl, hagrees⟩ | ⟨ancestor, rfl, hdisagrees, hsearch⟩
  · obtain ⟨⟨c, a, reverted⟩, m', happly, hrest⟩ := Prog.exec_bind_eq_ok.mp h
    rw [hlast] at happly
    obtain ⟨rfl, hs', rfl, hextend⟩ := exec_applyThrough hw hs hagrees
      (le_min hhead (Nat.le_add_right _ _)) (min_le_left _ _) happly
    obtain ⟨hfinal, hsettle⟩ := exec_finalizeCovered hs' hrest
    refine ⟨hfinal, .inl ⟨hagrees, ?_⟩⟩
    rw [hsettle, hextend]
    rfl
  · obtain ⟨-, rfl⟩ := Prod.mk.inj h
    obtain ⟨hgreatest, hdepth, hs', hcut⟩ := exec_reconcileFork hw hs hhead hsearch
    exact ⟨hs', .inr ⟨hdisagrees, ancestor, hgreatest, hdepth, hcut⟩⟩

/-- A cycle that returns: `runOnce` at some time, on whatever the game tables are then. -/
def Cycle (cfg : ProjectorConfig) (source : String) (w : SourceSnapshot) (db : Db)
    (result : HafProjectorRunResult) (db' : Db) : Prop :=
  ∃ time game, (runOnce cfg).exec (serve cfg.runtime source (w, time)) { db with game := game } =
    (.ok result, db')

theorem Cycle.advances (hw : w.Linked) (hs : StoredProjection cfg.runtime source db)
    (hhead : (chainView source db).processed ≤ w.head) {result : HafProjectorRunResult}
    (h : Cycle cfg source w db result db') :
    Advances cfg source w db db' := by
  obtain ⟨time, game, h⟩ := h
  -- the chain is not in the game tables
  have hs' : StoredProjection cfg.runtime source { db with game := game } :=
    ⟨⟨hs.sound.consistent, hs.sound.events, hs.sound.views⟩, hs.rows⟩
  have hadvances := exec_runOnce hw hs' hhead h
  exact hadvances

theorem ChainView.tipAgrees_advance {v : ChainView} {maxBlocksPerRun : ℕ} (hw : w.Linked)
    (hhead : v.processed ≤ w.head) (h : v.TipAgrees w) : (v.advance w maxBlocksPerRun).TipAgrees w := by
  have hlow : v.processed ≤ min w.head (v.processed + maxBlocksPerRun) :=
    le_min hhead (Nat.le_add_right _ _)
  have hblock : ∀ n, (v.advance w maxBlocksPerRun).block n =
      if v.processed < n ∧ n ≤ min w.head (v.processed + maxBlocksPerRun) then w.block n
      else v.block n := fun n => rfl
  have hprocessed : (v.advance w maxBlocksPerRun).processed =
      min w.head (v.processed + maxBlocksPerRun) := rfl
  by_cases hlt : v.processed < min w.head (v.processed + maxBlocksPerRun)
  · obtain ⟨block, hfound⟩ := hw.complete (min w.head (v.processed + maxBlocksPerRun)) (by omega)
      (min_le_left _ _)
    refine .inr ⟨block, block, ?_, by rw [hprocessed, hfound], rfl⟩
    rw [hprocessed, hblock, if_pos ⟨hlt, le_rfl⟩, hfound]
  · have hsame : min w.head (v.processed + maxBlocksPerRun) = v.processed := by omega
    refine h.imp (fun hzero => by rw [hprocessed, hsame, hzero]) ?_
    rintro ⟨stored, block, hstored, hfound, hid⟩
    refine ⟨stored, block, ?_, by rw [hprocessed, hsame, hfound], hid⟩
    rw [hprocessed, hblock, if_neg (by omega), hsame, hstored]

theorem tipAgrees_cut {ancestor : ℕ} (h : ancestor ∈ commonHeights w source db) :
    ((chainView source db).cut ancestor).TipAgrees w := by
  refine h.2.imp id ?_
  rintro ⟨row, block, hrow, hblock, hid⟩
  refine ⟨row.toHafBlock, block, ?_, hblock, hid⟩
  show (if ancestor ≤ ancestor then (getCurrentCheckpoint source ancestor db).map _ else none) = _
  rw [if_pos le_rfl, hrow]
  rfl

/-- The cycles spent on a fork. -/
def forkCycles (source : String) (db : Db) (ancestor : ℕ) : ℕ :=
  if ancestor < lastProcessed source db.chain then 1 else 0

/-- What a run of cycles leaves: nothing happened, or the greatest common height was advanced. -/
structure CaughtUp (cfg : ProjectorConfig) (source : String) (w : SourceSnapshot) (db : Db) (count : ℕ)
    (ancestor : ℕ) (db' : Db) : Prop where
  stored : StoredProjection cfg.runtime source db'
  greatest : IsGreatest (commonHeights w source db) ancestor
  depth : lastProcessed source db.chain - ancestor ≤ cfg.maxReorgDepth
  forked : forkCycles source db ancestor ≤ count
  view : chainView source db' = (ChainView.advance w cfg.maxBlocksPerRun)^[count -
    forkCycles source db ancestor] ((chainView source db).cut ancestor)
  tip : (chainView source db').TipAgrees w
  head : (chainView source db').processed ≤ w.head

theorem CaughtUp.start (hw : w.Linked) (hs : StoredProjection cfg.runtime source db)
    (hhead : (chainView source db).processed ≤ w.head) {result : HafProjectorRunResult}
    (h : Cycle cfg source w db result db') : ∃ ancestor, CaughtUp cfg source w db 1 ancestor db' := by
  obtain ⟨hs', ⟨htip, hview⟩ | ⟨htip, ancestor, hgreatest, hdepth, hview⟩⟩ := h.advances hw hs hhead
  · have hcut : (chainView source db).cut (lastProcessed source db.chain) = chainView source db := by
      refine ChainView.ext rfl rfl (funext fun n => ?_)
      show (if n ≤ lastProcessed source db.chain then (chainView source db).block n else none) = _
      split
      · rfl
      · rename_i hn
        exact (view_block_none hs.sound.consistent.toChained (not_le.mp hn)).symm
    have hfork : forkCycles source db (lastProcessed source db.chain) = 0 := if_neg (lt_irrefl _)
    refine ⟨lastProcessed source db.chain, hs', ⟨(tipAgrees_iff hs).mp htip, fun n hn => ?_⟩, by omega,
      by omega, ?_, ?_, ?_⟩
    · exact le_of_mem_commonHeights hs.sound.consistent.toChained hn
    · rw [hfork, hcut, hview]
      rfl
    · rw [hview]
      exact ChainView.tipAgrees_advance hw hhead htip
    · rw [hview]
      exact min_le_left _ _
  · have hle : ancestor ≤ lastProcessed source db.chain :=
      le_of_mem_commonHeights hs.sound.consistent.toChained hgreatest.1
    have hne : ancestor ≠ lastProcessed source db.chain := by
      rintro rfl
      exact htip ((tipAgrees_iff hs).mpr hgreatest.1)
    have hfork : forkCycles source db ancestor = 1 := if_pos (by omega)
    refine ⟨ancestor, hs', hgreatest, hdepth, hfork.le, ?_, ?_, ?_⟩
    · rw [hfork, hview]
      rfl
    · rw [hview]
      exact tipAgrees_cut hgreatest.1
    · rw [hview]
      exact hle.trans hhead

theorem CaughtUp.next (hw : w.Linked) {count ancestor : ℕ} {db'' : Db}
    (h : CaughtUp cfg source w db count ancestor db') {result : HafProjectorRunResult}
    (hcycle : Cycle cfg source w db' result db'') :
    CaughtUp cfg source w db (count + 1) ancestor db'' := by
  obtain ⟨hs', ⟨-, hview⟩ | ⟨htip, -⟩⟩ := hcycle.advances hw h.stored h.head
  · refine ⟨hs', h.greatest, h.depth, h.forked.trans (Nat.le_succ _), ?_, ?_, ?_⟩
    · rw [hview, h.view, Nat.succ_sub h.forked, Function.iterate_succ_apply']
    · rw [hview]
      exact ChainView.tipAgrees_advance hw h.head h.tip
    · rw [hview]
      exact min_le_left _ _
  · exact absurd h.tip htip

/-- **The projection catches up**: against a source that stands still, whose chain is linked and reaches
the cursor, a worker whose cycles all return spends at most one of them on a fork, in which it cuts the
projection down to the greatest common height and does nothing else.  Each other cycle takes the next blocks
of the source and settles what its irreversible block covers, so their number alone decides what the
projection holds. -/
theorem projection_catches_up (cfg : ProjectorConfig) (source : String) (w : SourceSnapshot)
    (hw : w.Linked) (game : GameTables) (db db' : Db)
    (hreachable : Reachable (ProjectionStep cfg.runtime source) (Db.fresh game) db)
    (hhead : lastProcessed source db.chain ≤ w.head)
    (ts : List (Transition Db HafProjectorRunResult)) (hrun : Run (Cycle cfg source w) db ts db')
    (hsome : ts ≠ []) :
    ∃ ancestor, IsGreatest (commonHeights w source db) ancestor ∧
      lastProcessed source db.chain - ancestor ≤ cfg.maxReorgDepth ∧
      (ts.length = forkCycles source db ancestor →
        lastProcessed source db'.chain = ancestor ∧
        lastIrreversible source db'.chain = lastIrreversible source db.chain ∧
        ∀ n, (getCurrentCheckpoint source n db').map (·.toHafBlock) =
          if n ≤ ancestor then (getCurrentCheckpoint source n db).map (·.toHafBlock) else none) ∧
      ∀ k, ts.length = k + 1 + forkCycles source db ancestor →
        lastProcessed source db'.chain = min w.head (ancestor + cfg.maxBlocksPerRun * (k + 1)) ∧
        lastIrreversible source db'.chain = max (lastIrreversible source db.chain)
          (min w.irreversible.number (lastProcessed source db'.chain)) ∧
        ∀ n, (getCurrentCheckpoint source n db').map (·.toHafBlock) =
          if n ≤ ancestor then (getCurrentCheckpoint source n db).map (·.toHafBlock)
          else if n ≤ lastProcessed source db'.chain then w.block n else none := by
  obtain ⟨hsound, hrows⟩ := stored_of_reachable hreachable
  have hcaught : ts = [] ∧ db' = db ∨ ∃ ancestor, CaughtUp cfg source w db ts.length ancestor db' := by
    clear hsome
    induction hrun with
    | refl => exact .inl ⟨rfl, rfl⟩
    | @snoc m s' ts l hprefix hcycle ih =>
      rw [List.length_append, List.length_singleton]
      rcases ih with ⟨rfl, rfl⟩ | ⟨ancestor, hcaught⟩
      · exact .inr (CaughtUp.start hw ⟨hsound, hrows⟩ hhead hcycle)
      · exact .inr ⟨ancestor, hcaught.next hw hcycle⟩
  obtain ⟨ancestor, hcaught⟩ := hcaught.resolve_left fun h => hsome h.1
  refine ⟨ancestor, hcaught.greatest, hcaught.depth, fun hfork => ?_, fun k hk => ?_⟩
  · have hview := hcaught.view
    rw [hfork, Nat.sub_self, Function.iterate_zero_apply] at hview
    exact ⟨congrArg ChainView.processed hview, congrArg ChainView.irreversible hview,
      congrFun (congrArg ChainView.block hview)⟩
  have hle : ancestor ≤ lastProcessed source db.chain :=
    le_of_mem_commonHeights hsound.consistent.toChained hcaught.greatest.1
  have hview := hcaught.view
  rw [hk, Nat.add_sub_cancel, ChainView.advance_iterate (hle.trans hhead)] at hview
  have hprocessed : lastProcessed source db'.chain =
      min w.head (ancestor + cfg.maxBlocksPerRun * (k + 1)) := congrArg ChainView.processed hview
  refine ⟨hprocessed, ?_, fun n => ?_⟩
  · rw [hprocessed]
    exact congrArg ChainView.irreversible hview
  · have hblock := congrFun (congrArg ChainView.block hview) n
    refine hblock.trans ?_
    show (if ancestor < n ∧ n ≤ min w.head (ancestor + cfg.maxBlocksPerRun * (k + 1)) then w.block n
      else if n ≤ ancestor then (chainView source db).block n else none) = _
    rw [← hprocessed]
    by_cases hn : n ≤ ancestor
    · rw [if_neg (by omega), if_pos hn, if_pos hn]
      rfl
    · rw [if_neg hn, if_neg hn]
      by_cases hreached : n ≤ lastProcessed source db'.chain
      · rw [if_pos ⟨not_le.mp hn, hreached⟩, if_pos hreached]
      · rw [if_neg (fun h => hreached h.2), if_neg hreached]

end Cycles

/-! ### A fork, and the block after it -/

/-- Cycles at the given times, when all of them return. -/
def performCycles (cfg : ProjectorConfig) (source : String) (w : SourceSnapshot) :
    List Timestamp → Db → Option Db
  | [], db => some db
  | time :: times, db =>
    match (runOnce cfg).exec (serve cfg.runtime source (w, time)) db with
    | (.ok _, db') => performCycles cfg source w times db'
    | (.error _, _) => none

theorem performCycles_run {cfg : ProjectorConfig} {source : String} {w : SourceSnapshot} :
    ∀ {times : List Timestamp} {db db' : Db}, performCycles cfg source w times db = some db' →
      ∃ ts, Run (Cycle cfg source w) db ts db' ∧ ts.length = times.length
  | [], db, db', h => by
    obtain rfl := Option.some.inj h
    exact ⟨[], .refl _, rfl⟩
  | time :: times, db, db', h => by
    rw [performCycles] at h
    split at h
    · rename_i result m hexec
      obtain ⟨ts, hrun, hlength⟩ := performCycles_run h
      have hcycle : Cycle cfg source w db result m := ⟨time, db.game, hexec⟩
      exact ⟨_, (Run.single hcycle).append hrun, by rw [List.singleton_append, List.length_cons, hlength,
        List.length_cons]⟩
    · cases h

/-- A block that the forked source answers with has the height that was asked for. -/
theorem forkedSource_block {n : ℕ} {block : HafBlock} (h : forkedSource.block n = some block) :
    block.number = n ∧ n ≤ 3 := by
  have hfind : [chainBlock 1, chainBlock 2, ⟨3, "c3", "b2", 0⟩].find? (fun b => b.number = n) =
      some block := h
  have hnumber : block.number = n := of_decide_eq_true
    (List.find?_some (p := fun b : HafBlock => b.number = n) hfind)
  refine ⟨hnumber, hnumber ▸ ?_⟩
  have hmem := List.mem_of_find?_eq_some hfind
  simp only [List.mem_cons, List.not_mem_nil, or_false] at hmem
  rcases hmem with rfl | rfl | rfl <;> decide

theorem linked_forkedSource : forkedSource.Linked where
  complete := complete_forkedSource
  number _ _ h := (forkedSource_block h).1
  linked n block next hpos hblock hnext := by
    have hle : n + 1 ≤ 3 := (forkedSource_block hnext).2
    have hcases : n = 1 ∨ n = 2 := by omega
    rcases hcases with rfl | rfl
    · obtain rfl := Option.some.inj hblock
      obtain rfl := Option.some.inj hnext
      rfl
    · obtain rfl := Option.some.inj hblock
      obtain rfl := Option.some.inj hnext
      rfl

/-- Block three is cut in one cycle, and the block of the source takes its height in the next. -/
theorem projection_catches_up_forked :
    ∃ db db' ts, Reachable (ProjectionStep exampleChainConfig.runtime "haf") (Db.fresh exampleGame) db ∧
      ForkedDb db ∧ Run (Cycle exampleChainConfig "haf" forkedSource) db ts db' ∧ ts.length = 2 ∧
      lastProcessed "haf" db'.chain = 3 ∧ lastIrreversible "haf" db'.chain = 1 ∧
      (getCurrentCheckpoint "haf" 3 db').map (·.toHafBlock) = some ⟨3, "c3", "b2", 0⟩ := by
  have hperformed : (performAll exampleChainConfig "haf" (Db.fresh exampleGame) forkedCalls).any
      (fun db => decide (ForkedDb db) &&
        (performCycles exampleChainConfig "haf" forkedSource [20, 30] db).isSome) = true := by
    decide +kernel
  obtain ⟨db, hperform, hstored⟩ := (Option.any_eq_true _ _).mp hperformed
  obtain ⟨hforked, hcycles⟩ := Bool.and_eq_true_iff.mp hstored
  have hdb : ForkedDb db := of_decide_eq_true hforked
  obtain ⟨db', hcycles⟩ := Option.isSome_iff_exists.mp hcycles
  obtain ⟨ts, hrun, hlength⟩ := performCycles_run hcycles
  have hreachable : Reachable (ProjectionStep exampleChainConfig.runtime "haf") (Db.fresh exampleGame) db :=
    performAll_run hperform
  obtain ⟨-, hlast, hirreversible, htwo, hthree⟩ := id hdb
  obtain ⟨ancestor, hgreatest, -, -, hreached⟩ := projection_catches_up exampleChainConfig "haf" forkedSource
    linked_forkedSource exampleGame db db' hreachable (by rw [hlast]; decide) ts hrun
    (fun h => by rw [h] at hlength; cases hlength)
  have htwo : 2 ≤ ancestor := by
    obtain ⟨stored, hfind, hid⟩ := Option.map_eq_some_iff.mp htwo
    exact hgreatest.2 ⟨by omega, .inr ⟨stored, chainBlock 2, hfind, rfl, hid⟩⟩
  have hle : ancestor ≤ 3 :=
    hlast ▸ le_of_mem_commonHeights (stored_of_reachable hreachable).1.consistent.toChained hgreatest.1
  have hne : ancestor ≠ 3 := by
    rintro rfl
    rcases hgreatest.1.2 with hzero | ⟨stored, block, hfind, hblock, hsame⟩
    · cases hzero
    · obtain rfl : (⟨3, "c3", "b2", 0⟩ : HafBlock) = block := Option.some.inj hblock
      rw [hfind] at hthree
      have hid : stored.id = "b3" := Option.some.inj hthree
      rw [hid] at hsame
      exact absurd hsame (by decide)
  obtain rfl : ancestor = 2 := by omega
  have hfork : forkCycles "haf" db 2 = 1 := if_pos (by omega)
  obtain ⟨hprocessed, hsettled, hheaders⟩ := hreached 0 (by rw [hfork, hlength]; rfl)
  have hprocessed : lastProcessed "haf" db'.chain = 3 := hprocessed
  refine ⟨db, db', ts, hreachable, hdb, hrun, hlength, hprocessed, ?_, ?_⟩
  · rw [hsettled, hirreversible, hprocessed]
    rfl
  · rw [hheaders 3, if_neg (by omega), if_pos hprocessed.ge]
    rfl

end HiveChameleon.Projector
