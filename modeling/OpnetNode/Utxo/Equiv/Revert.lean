import OpnetNode.Utxo.Equiv.Batches

/-!
# Reverting the UTXO collection

Blocks `1, …, n` of a valid chain are inserted in batches, and the collection is purged from a
height `b`. The unspent outputs should be the ones of the blocks below `b`.

* `lookup_purgeRanges`: what a purge over some ranges does to the document of an outpoint.
* `foldl_batchAt_unspent`, `foldl_batchAt_spent`: the document of an outpoint of a valid chain after
  all batches.
* `revertAt_iff`: the purge is right at an outpoint, depending on where it is created and spent.
* `revertUnspentSet_iff`: the purge is right if and only if the batches are `RevertSafe`; above all,
  a mark that will be undone is on an output that an earlier batch wrote.
* `revertUnspentSet_sameBatch`: an output that is created and spent in the same batch comes back
  without value and script.
-/

namespace OpnetNode

namespace UnspentTransactionRepository

/-! ### The purge at one outpoint -/

/-- Purge some ranges of heights, one after another. -/
def purgeRanges (ranges : List HeightRange) (utxos : Utxos) : Utxos :=
  ranges.foldl (fun utxos range => undoSpent range (deleteCreated range utxos)) utxos

/-- What a purge of the heights `covered` does to a document. -/
def purgeAt (covered : ℕ → Bool) (d : UnspentTransaction) : Option UnspentTransaction :=
  if d.blockHeight.any covered then none
  else some (if d.deletedAtBlock.any covered then unspend d else d)

theorem lookup_purgeRange (range : HeightRange) (utxos : Utxos) (o : OutPoint) :
    (undoSpent range (deleteCreated range utxos)).lookup o
      = (utxos.lookup o).bind (purgeAt range.contains) := by
  unfold undoSpent deleteCreated
  rw [IndexedCollection.lookup_updateMany, IndexedCollection.lookup_deleteMany]
  cases utxos.lookup o with
  | none => rfl
  | some d =>
    unfold purgeAt HeightRange.selects
    by_cases hb : d.blockHeight.any range.contains
    · simp [Option.filter, hb]
    · simp [Option.filter, hb]

theorem purgeAt_bind (covered covered' : ℕ → Bool) (d : UnspentTransaction) :
    (purgeAt covered d).bind (purgeAt covered') = purgeAt (fun h => covered h || covered' h) d := by
  obtain ⟨outPoint, blockHeight, value, scriptPubKey, deletedAtBlock⟩ := d
  unfold purgeAt unspend
  cases blockHeight with
  | none => cases deletedAtBlock with
    | none => simp
    | some s => by_cases hs : covered s <;> simp [hs]
  | some c =>
    by_cases hc : covered c
    · simp [hc]
    · cases deletedAtBlock with
      | none => simp [hc]
      | some s => by_cases hs : covered s <;> simp [hc, hs]

theorem lookup_purgeRanges (ranges : List HeightRange) (utxos : Utxos) (o : OutPoint) :
    (purgeRanges ranges utxos).lookup o
      = (utxos.lookup o).bind (purgeAt fun h => ranges.any fun range => range.contains h) := by
  unfold purgeRanges
  induction ranges generalizing utxos with
  | nil =>
    have hnone : ∀ d, purgeAt (fun h => ([] : List HeightRange).any fun range => range.contains h) d
        = some d := by
      intro d
      cases hb : d.blockHeight <;> cases hs : d.deletedAtBlock <;> simp [purgeAt, hb, hs]
    rw [List.foldl_nil, funext hnone]
    cases utxos.lookup o <;> rfl
  | cons range ranges ih =>
    rw [List.foldl_cons, ih, lookup_purgeRange, Option.bind_assoc]
    congr 1
    funext d
    rw [purgeAt_bind]
    rfl

/-- The unspent output a document gives after a purge from `b`: none if it was created at or above
`b` or spent below `b`. -/
def revertedAt (b : ℕ) (d : UnspentTransaction) : Option UnspentTransaction :=
  if d.blockHeight.any (b ≤ ·) then none
  else if d.deletedAtBlock.all (b ≤ ·) then some (unspend d) else none

/-- The heights a document mentions. -/
def HasHeights (p : ℕ → Prop) (d : UnspentTransaction) : Prop :=
  (∀ h, d.blockHeight = some h → p h) ∧ ∀ h, d.deletedAtBlock = some h → p h

variable {b : ℕ} {d : UnspentTransaction}

theorem filter_purgeAt {covered : ℕ → Bool}
    (h : HasHeights (fun h => covered h = decide (b ≤ h)) d) :
    (purgeAt covered d).filter (fun d => d.deletedAtBlock.isNone) = revertedAt b d := by
  obtain ⟨outPoint, blockHeight, value, scriptPubKey, deletedAtBlock⟩ := d
  obtain ⟨hcreated, hspent⟩ := h
  unfold purgeAt revertedAt unspend
  cases blockHeight with
  | none => cases deletedAtBlock with
    | none => simp [Option.filter]
    | some s =>
      have hs : covered s = decide (b ≤ s) := hspent s rfl
      by_cases hle : b ≤ s <;> simp [Option.filter, hs, hle]
  | some c =>
    have hc : covered c = decide (b ≤ c) := hcreated c rfl
    by_cases hle : b ≤ c
    · simp [Option.filter, hc, hle]
    · cases deletedAtBlock with
      | none => simp [Option.filter, hc, hle]
      | some s =>
        have hs : covered s = decide (b ≤ s) := hspent s rfl
        by_cases hle' : b ≤ s <;> simp [Option.filter, hc, hs, hle, hle']

variable {o : OutPoint}

theorem unspentAt_purgeRanges {ranges : List HeightRange} {utxos : Utxos}
    (h : ∀ d, utxos.lookup o = some d →
      HasHeights (fun h => (ranges.any fun range => range.contains h) = decide (b ≤ h)) d) :
    unspentAt o (purgeRanges ranges utxos) = (utxos.lookup o).bind (revertedAt b) := by
  unfold unspentAt
  rw [lookup_purgeRanges]
  cases hd : utxos.lookup o with
  | none => rfl
  | some d => exact filter_purgeAt (h d hd)

/-! ### The heights of the documents -/

variable {block : UtxoBlock}

theorem mem_creations_block
    (h : d ∈ creations o [block]) : d.blockHeight = some block.blockHeight := by
  obtain ⟨hmem, -⟩ := List.mem_filter.mp h
  unfold createdTransactions at hmem
  rw [List.flatMap_singleton] at hmem
  obtain ⟨transaction, -, hmem⟩ := List.mem_flatMap.mp hmem
  obtain ⟨output, -, rfl⟩ := List.mem_map.mp hmem
  rfl

variable {height : ℕ}

theorem mem_spendHeights_block
    (h : height ∈ spendHeights o [block]) : height = block.blockHeight := by
  obtain ⟨spent, hspent, rfl⟩ := List.mem_map.mp h
  obtain ⟨hmem, -⟩ := List.mem_filter.mp hspent
  unfold convertSpentTransactions at hmem
  rw [List.flatMap_singleton] at hmem
  obtain ⟨transaction, -, hmem⟩ := List.mem_flatMap.mp hmem
  obtain ⟨outPoint, -, rfl⟩ := List.mem_map.mp hmem
  rfl

variable {blocks : List UtxoBlock}

theorem exists_block_of_mem_creations (h : d ∈ creations o blocks) :
    ∃ block ∈ blocks, d.blockHeight = some block.blockHeight := by
  rw [creations_eq_flatMap] at h
  obtain ⟨block, hblock, hd⟩ := List.mem_flatMap.mp h
  exact ⟨block, hblock, mem_creations_block hd⟩

theorem exists_block_of_mem_spendHeights
    (h : height ∈ spendHeights o blocks) : ∃ block ∈ blocks, height = block.blockHeight := by
  rw [spendHeights_eq_flatMap] at h
  obtain ⟨block, hblock, hs⟩ := List.mem_flatMap.mp h
  exact ⟨block, hblock, mem_spendHeights_block hs⟩

/-- A document is created in a block below `b`. -/
def createdBelow (b : ℕ) (d : UnspentTransaction) : Bool := d.blockHeight.any (· < b)

/-- The blocks below `b`. -/
def blocksBelow (b : ℕ) (blocks : List UtxoBlock) : List UtxoBlock :=
  blocks.filter fun block => block.blockHeight < b

theorem creations_blocksBelow (o : OutPoint) (b : ℕ) (blocks : List UtxoBlock) :
    creations o (blocksBelow b blocks) = (creations o blocks).filter (createdBelow b) := by
  unfold blocksBelow
  induction blocks with
  | nil => rfl
  | cons block blocks ih =>
    rw [← List.singleton_append, creations_append, List.filter_append, creations_append,
      List.filter_append, ih]
    congr 1
    by_cases hb : block.blockHeight < b
    · rw [List.filter_singleton, decide_eq_true hb, cond_true]
      refine (List.filter_eq_self.mpr fun d hd => ?_).symm
      simp [createdBelow, mem_creations_block hd, hb]
    · rw [List.filter_singleton, decide_eq_false hb, cond_false]
      refine (List.filter_eq_nil_iff.mpr fun d hd => ?_).symm
      simpa [createdBelow, mem_creations_block hd] using hb

theorem spendHeights_blocksBelow (o : OutPoint) (b : ℕ) (blocks : List UtxoBlock) :
    spendHeights o (blocksBelow b blocks) = (spendHeights o blocks).filter (· < b) := by
  unfold blocksBelow
  induction blocks with
  | nil => rfl
  | cons block blocks ih =>
    rw [← List.singleton_append, spendHeights_append, List.filter_append, spendHeights_append,
      List.filter_append, ih]
    congr 1
    by_cases hb : block.blockHeight < b
    · rw [List.filter_singleton, decide_eq_true hb, cond_true]
      refine (List.filter_eq_self.mpr fun height hs => ?_).symm
      simp [mem_spendHeights_block hs, hb]
    · rw [List.filter_singleton, decide_eq_false hb, cond_false]
      refine (List.filter_eq_nil_iff.mpr fun height hs => ?_).symm
      simpa [mem_spendHeights_block hs] using hb

def heightIn (blocks : List UtxoBlock) (h : ℕ) : Prop := ∃ block ∈ blocks, h = block.blockHeight

variable {p : ℕ → Prop}

theorem HasHeights.imp {q : ℕ → Prop} (h : HasHeights p d)
    (hpq : ∀ h, p h → q h) : HasHeights q d :=
  ⟨fun height hc => hpq height (h.1 height hc), fun height hs => hpq height (h.2 height hs)⟩

variable {config : PurgeConfig}

theorem hasHeights_batchAt {d : Option UnspentTransaction}
    (hd : ∀ e, d = some e → HasHeights p e) (hp : ∀ block ∈ blocks, p block.blockHeight)
    {e : UnspentTransaction} (he : batchAt config o d blocks = some e) : HasHeights p e := by
  have hpurged : ∀ e, d.filter (fun d => !d.deletedAtBlock.any (purges config blocks)) = some e →
      HasHeights p e := fun e he => hd e (Option.filter_eq_some_iff.mp he).1
  -- the document a batch writes over
  have hold : HasHeights p
      ((d.filter fun d => !d.deletedAtBlock.any (purges config blocks)).getD (.bare o)) := by
    cases hf : d.filter fun d => !d.deletedAtBlock.any (purges config blocks) with
    | none =>
      refine ⟨fun _ h => ?_, fun _ h => ?_⟩
      · cases h
      · cases h
    | some e => exact hpurged e hf
  have heffect := batchAt_effect config o d blocks
  generalize batchAt config o d blocks = after at he heffect
  cases heffect with
  | spent hwrites hspends =>
    obtain ⟨block, hblock, rfl⟩ := exists_block_of_mem_spendHeights (List.mem_of_getLast? hspends)
    cases he
    refine ⟨hold.1, fun h hh => ?_⟩
    cases hh
    exact hp block hblock
  | created hwrites hspends hcreated =>
    obtain ⟨block, hblock, hheight⟩ :=
      exists_block_of_mem_creations (List.mem_of_getLast? hcreated)
    cases he
    refine ⟨fun h hh => ?_, hold.2⟩
    cases hheight.symm.trans hh
    exact hp block hblock
  | kept hidle => exact hpurged e he

variable {batches : List (List UtxoBlock)}

theorem hasHeights_insertAll (h : (insertAll config batches .empty).lookup o = some d) :
    HasHeights (heightIn batches.flatten) d := by
  rw [lookup_insertAll, IndexedCollection.lookup_empty] at h
  induction batches using List.reverseRecOn generalizing d with
  | nil => cases h
  | append_singleton batches blocks ih =>
    rw [List.foldl_append, List.foldl_cons, List.foldl_nil] at h
    refine hasHeights_batchAt (fun e he => (ih he).imp fun height hin => ?_) ?_ h
    · obtain ⟨block, hblock, rfl⟩ := hin
      exact ⟨block, by simp [List.flatten_append, hblock], rfl⟩
    · intro block hblock
      exact ⟨block, by simp [List.flatten_append, hblock], rfl⟩

/-! ### The document of an outpoint of a chain -/

/-- Blocks that follow each other from height 1 on, spend an outpoint at most once, and do not create
it in a block after the one that spends it. -/
structure ValidChain (blocks : List UtxoBlock) : Prop where
  heights : blocks.map UtxoBlock.blockHeight = List.range' 1 blocks.length
  spentOnce : ((convertSpentTransactions blocks).map SpentTransaction.outPoint).Nodup
  spendsFollow : SpendsFollowCreations blocks

theorem spendHeights_length_le_one (h : ValidChain blocks)
    (o : OutPoint) : (spendHeights o blocks).length ≤ 1 := by
  unfold spendHeights
  rw [List.length_map, ← List.length_map SpentTransaction.outPoint]
  -- the filtered outpoints are all `o`, and without repetition
  have hnodup : (((convertSpentTransactions blocks).filter fun spent => spent.outPoint = o).map
      SpentTransaction.outPoint).Nodup :=
    h.spentOnce.sublist (List.filter_sublist.map _)
  have hall : ∀ x ∈ ((convertSpentTransactions blocks).filter fun spent => spent.outPoint = o).map
      SpentTransaction.outPoint, x = o := by
    intro x hx
    obtain ⟨spent, hspent, rfl⟩ := List.mem_map.mp hx
    simpa using (List.mem_filter.mp hspent).2
  rw [List.eq_replicate_of_mem hall] at hnodup ⊢
  rw [List.length_replicate]
  exact List.nodup_replicate.mp hnodup

variable {s : ℕ}

variable {pre post : List (List UtxoBlock)}

theorem ValidChain.spend_unique (h : ValidChain (pre ++ blocks :: post).flatten)
    (hs : s ∈ spendHeights o blocks) :
    spendHeights o pre.flatten = [] ∧ spendHeights o blocks = [s]
      ∧ spendHeights o post.flatten = [] ∧ creations o post.flatten = [] := by
  have hlen := spendHeights_length_le_one h o
  rw [List.flatten_append, List.flatten_cons, spendHeights_append, spendHeights_append,
    List.length_append, List.length_append] at hlen
  have hpos : 0 < (spendHeights o blocks).length := List.length_pos_of_mem hs
  refine ⟨List.length_eq_zero_iff.mp (by omega), ?_, List.length_eq_zero_iff.mp (by omega), ?_⟩
  · obtain ⟨a, ha⟩ := List.length_eq_one_iff.mp (show (spendHeights o blocks).length = 1 by omega)
    rw [ha, List.mem_singleton] at hs
    rw [ha, hs]
  · have hlast := (List.pairwise_append.mp (spentLast_of_spendsFollowCreations h.spendsFollow o)).2.1
    rw [flatMap_flatten_creations, List.flatMap_eq_nil_iff]
    intro blocks' hblocks'
    exact List.rel_of_pairwise_cons hlast hblocks' (List.ne_nil_of_mem hs)

theorem foldl_batchAt_unspent (h : spendHeights o batches.flatten = []) :
    batches.foldl (batchAt config o) none = (creations o batches.flatten).getLast? := by
  have hnone := h
  rw [flatMap_flatten_spendHeights, List.flatMap_eq_nil_iff] at hnone
  have hlast : SpentLast o batches := by
    refine List.pairwise_of_forall_mem_list ?_
    intro blocks hblocks _ _ hne
    exact absurd (hnone blocks hblocks) hne
  rw [(foldl_batchAt_spec fun _ => hlast).unspent (marked_of_not_spent h), written_of_not_spent h]

/-- Later batches purge the mark of a spend. -/
def purgedAfter (config : PurgeConfig) (post : List (List UtxoBlock)) (s : ℕ) : Bool :=
  post.any fun blocks => purges config blocks s

/-- Batches that neither spend nor create an outpoint can only purge its document. -/
theorem foldl_batchAt_idle
    (hs : spendHeights o batches.flatten = []) (hc : creations o batches.flatten = [])
    (d : Option UnspentTransaction) :
    batches.foldl (batchAt config o) d
      = d.filter fun d => !d.deletedAtBlock.any (purgedAfter config batches) := by
  rw [flatMap_flatten_spendHeights, List.flatMap_eq_nil_iff] at hs
  rw [flatMap_flatten_creations, List.flatMap_eq_nil_iff] at hc
  induction batches generalizing d with
  | nil => cases d with
    | none => rfl
    | some e => cases he : e.deletedAtBlock <;> simp [Option.filter, purgedAfter, he]
  | cons blocks batches ih =>
    have hat : batchAt config o d blocks
        = d.filter fun d => !d.deletedAtBlock.any (purges config blocks) := by
      unfold batchAt
      rw [hs blocks List.mem_cons_self, hc blocks List.mem_cons_self]
      simp
    rw [List.foldl_cons, hat, ih (fun b hb => hs b (List.mem_cons_of_mem _ hb))
      fun b hb => hc b (List.mem_cons_of_mem _ hb)]
    cases d with
    | none => rfl
    | some e => cases he : e.deletedAtBlock with
      | none => simp [Option.filter, he]
      | some height =>
        by_cases hp : purges config blocks height <;> simp [Option.filter, purgedAfter, he, hp]

/-- The document of an outpoint that `blocks` spends: marked if `blocks` has an output to write, and
otherwise what the batches before it left. -/
theorem foldl_batchAt_spent (h : ValidChain (pre ++ blocks :: post).flatten)
    (hs : s ∈ spendHeights o blocks) :
    (pre ++ blocks :: post).foldl (batchAt config o) none
      = if writes blocks then
          if purgedAfter config post s then none
          else some (withSpend s ((creations o pre.flatten).getLast?.getD (.bare o)))
        else (creations o pre.flatten).getLast? := by
  -- before `blocks` the outpoint is only created, and after it nothing happens to it but a purge
  obtain ⟨hpre, hblocks, hpost, hcpost⟩ := h.spend_unique hs
  have hnone : ∀ e, (creations o pre.flatten).getLast? = some e → e.deletedAtBlock = none :=
    fun e he => (mem_creations (List.mem_of_getLast? he)).2
  rw [List.foldl_append, List.foldl_cons, foldl_batchAt_unspent hpre,
    foldl_batchAt_idle hpost hcpost]
  unfold batchAt
  dsimp only
  rw [filter_purges_of_none hnone, hblocks, List.getLast?_singleton]
  by_cases hw : writes blocks
  · rw [if_pos hw, if_pos hw]
    by_cases hp : purgedAfter config post s <;> simp [Option.filter, withSpend, hp]
  · rw [if_neg hw, if_neg hw]
    cases hlast : (creations o pre.flatten).getLast? with
    | none => rfl
    | some e => simp [Option.filter, hnone e hlast]

/-! ### When the purge is right at an outpoint -/

variable {α : Type*} {l : List α}

/-- The last element of a list and the last one that satisfies a predicate, when the elements that
satisfy it come first. -/
theorem getLast?_filter_iff {p : α → Bool} (hl : l.Pairwise fun a a' => p a' → p a) :
    l.getLast?.filter p = (l.filter p).getLast? ↔ ∀ a ∈ l, p a → ∀ a' ∈ l, p a' := by
  rcases List.eq_nil_or_concat l with rfl | ⟨l, a, rfl⟩
  · simp
  · rw [List.concat_eq_append] at hl ⊢
    have hfirst : p a → ∀ a' ∈ l ++ [a], p a' := by
      intro hp a' ha'
      rcases List.mem_append.mp ha' with hmem | hmem
      · exact (List.pairwise_append.mp hl).2.2 a' hmem a (List.mem_singleton_self a) hp
      · rwa [List.mem_singleton.mp hmem]
    rw [List.getLast?_concat]
    by_cases hp : p a
    · rw [List.filter_eq_self.mpr (hfirst hp), List.getLast?_concat]
      simp only [Option.filter_some, hp, if_true, true_iff]
      exact fun _ _ _ => hfirst hp
    · -- then nothing may satisfy it
      simp only [Option.filter_some, hp, Bool.false_eq_true, if_false]
      rw [eq_comm, List.getLast?_eq_none_iff, List.filter_eq_nil_iff]
      constructor
      · intro hnone a' ha' hp'
        exact absurd hp' (hnone a' ha')
      · intro hall a' ha' hp'
        exact hp (hall a' ha' hp' a (by simp))

theorem getLast?_filter_append_iff {p : α → Bool} {l' : List α}
    (hl : l.Pairwise fun a a' => p a' → p a) (hne : ∀ a ∈ l, ∀ a' ∈ l', a ≠ a') :
    l.getLast?.filter p = ((l ++ l').filter p).getLast?
      ↔ (∀ a ∈ l', ¬ p a) ∧ ∀ a ∈ l, p a → ∀ a' ∈ l, p a' := by
  rw [List.filter_append, List.getLast?_append]
  by_cases hnil : l'.filter p = []
  · rw [hnil, List.getLast?_nil, Option.none_or, getLast?_filter_iff hl,
      and_iff_right (List.filter_eq_nil_iff.mp hnil)]
  · obtain ⟨x, hx⟩ := Option.ne_none_iff_exists'.mp fun h => hnil (List.getLast?_eq_none_iff.mp h)
    obtain ⟨hmem, hp⟩ := List.mem_filter.mp (List.mem_of_getLast? hx)
    rw [hx, Option.some_or]
    constructor
    · intro h
      have hlast := (Option.filter_eq_some_iff.mp h).1
      exact absurd rfl (hne x (List.mem_of_getLast? hlast) x hmem)
    · intro h
      exact absurd hp (h.1 x hmem)

/-- Creations are not on both sides of `b`. -/
def OneSide (b : ℕ) (created : List UnspentTransaction) : Prop :=
  ∀ c ∈ created, createdBelow b c → ∀ c' ∈ created, createdBelow b c'

/-- What it takes for the revert to `b` to be right about an output spent at height `s` by `blocks`,
between the batches `pre` and `post`. -/
structure SpendSafe (config : PurgeConfig) (b : ℕ) (pre : List (List UtxoBlock))
    (blocks : List UtxoBlock) (post : List (List UtxoBlock)) (o : OutPoint) (s : ℕ) : Prop where
  /-- A spend below `b` is marked, if there is something to mark. -/
  below : s < b → creations o pre.flatten ≠ [] → writes blocks
  /-- An output to restore is not created in the batch that spends it. -/
  ownBatch : b ≤ s → ∀ c ∈ creations o blocks, ¬ createdBelow b c
  oneSide : b ≤ s → OneSide b (creations o pre.flatten)
  /-- A mark that is left is on an output that an earlier batch wrote. -/
  marked : b ≤ s → writes blocks → purgedAfter config post s = false →
    creations o pre.flatten ≠ []
  /-- An output to restore is not purged. -/
  purged : b ≤ s → writes blocks → purgedAfter config post s →
    ∀ c ∈ creations o pre.flatten, ¬ createdBelow b c

/-- A revert to `b` gives back the outputs that are unspent below `b`: outputs that are never spent
are not created on both sides of `b`, and every spend is safe. -/
structure RevertSafe (config : PurgeConfig) (batches : List (List UtxoBlock)) (b : ℕ) : Prop where
  unspent : ∀ o, spendHeights o batches.flatten = [] → OneSide b (creations o batches.flatten)
  spent : ∀ pre blocks post o s, batches = pre ++ blocks :: post → s ∈ spendHeights o blocks →
    SpendSafe config b pre blocks post o s

theorem ValidChain.increasing (h : ValidChain blocks) :
    blocks.Pairwise fun block block' => block.blockHeight < block'.blockHeight := by
  have hheights : (blocks.map UtxoBlock.blockHeight).Pairwise (· < ·) := by
    rw [h.heights]
    exact List.pairwise_lt_range'
  exact List.pairwise_map.mp hheights

/-- Along a chain, the creations below `b` come first. -/
theorem pairwise_createdBelow
    (h : blocks.Pairwise fun block block' => block.blockHeight < block'.blockHeight)
    (o : OutPoint) (b : ℕ) :
    (creations o blocks).Pairwise fun c c' => createdBelow b c' → createdBelow b c := by
  rw [creations_eq_flatMap, List.pairwise_flatMap]
  constructor
  · intro block _
    refine List.pairwise_of_forall_mem_list fun c hc c' hc' => ?_
    simp [createdBelow, mem_creations_block hc, mem_creations_block hc']
  · refine h.imp fun {block block'} hlt c hc c' hc' => ?_
    simp only [createdBelow, mem_creations_block hc, mem_creations_block hc', Option.any_some,
      decide_eq_true_eq]
    omega

theorem creations_ne {blocks' : List UtxoBlock}
    (h : ∀ block ∈ blocks, ∀ block' ∈ blocks', block.blockHeight < block'.blockHeight)
    (o : OutPoint) : ∀ c ∈ creations o blocks, ∀ c' ∈ creations o blocks', c ≠ c' := by
  rintro c hc c' hc' rfl
  obtain ⟨block, hblock, hheight⟩ := exists_block_of_mem_creations hc
  obtain ⟨block', hblock', hheight'⟩ := exists_block_of_mem_creations hc'
  have hlt := h block hblock block' hblock'
  have heq : block.blockHeight = block'.blockHeight :=
    Option.some.inj (hheight.symm.trans hheight')
  omega

theorem revertedAt_created {c : UnspentTransaction} (hc : c ∈ creations o blocks) (b : ℕ) :
    revertedAt b c = (some c).filter (createdBelow b) := by
  obtain ⟨block, -, hheight⟩ := exists_block_of_mem_creations hc
  obtain ⟨-, hdel⟩ := mem_creations hc
  obtain ⟨outPoint, blockHeight, value, scriptPubKey, deletedAtBlock⟩ := c
  dsimp only at hheight hdel
  subst hheight hdel
  by_cases hb : b ≤ block.blockHeight
  · simp [revertedAt, createdBelow, Option.filter, hb]
  · have hb' : block.blockHeight < b := not_le.mp hb
    simp [revertedAt, createdBelow, Option.filter, unspend, hb, hb']

/-- Undoing a spend from `b` on gives the output back. -/
theorem revertedAt_withSpend (hs : b ≤ s) :
    revertedAt b (withSpend s d) = revertedAt b (unspend d) := by
  simp [revertedAt, withSpend, unspend, hs]

theorem revertedAt_withSpend_below (hs : s < b) : revertedAt b (withSpend s d) = none := by
  simp [revertedAt, withSpend, hs]

theorem bind_revertedAt (b : ℕ) : (creations o blocks).getLast?.bind (revertedAt b)
      = (creations o blocks).getLast?.filter (createdBelow b) := by
  cases hc : (creations o blocks).getLast? with
  | none => rfl
  | some c => exact revertedAt_created (List.mem_of_getLast? hc) b

/-- The unspent output of the blocks below `b`. -/
theorem unspentAt_blocksBelow (config : PurgeConfig) (o : OutPoint) (blocks : List UtxoBlock)
    (b : ℕ) : unspentAt o (insertTransactions config (blocksBelow b blocks) .empty)
      = if (spendHeights o blocks).filter (· < b) = [] then
          ((creations o blocks).filter (createdBelow b)).getLast?
        else none := by
  have h := unspentAt_oneBatch config o (blocksBelow b blocks)
  rw [creations_blocksBelow, spendHeights_blocksBelow] at h
  simp only [List.isEmpty_iff] at h
  exact h

section Spent

variable {config : PurgeConfig} {b s : ℕ} {pre post : List (List UtxoBlock)}
  {blocks : List UtxoBlock} {o : OutPoint}

theorem ValidChain.pre_lt (h : ValidChain (pre ++ blocks :: post).flatten) :
    ∀ block ∈ pre.flatten, ∀ block' ∈ blocks, block.blockHeight < block'.blockHeight := by
  have hinc := h.increasing
  rw [List.flatten_append, List.flatten_cons] at hinc
  intro block hblock block' hblock'
  exact (List.pairwise_append.mp hinc).2.2 block hblock block' (List.mem_append_left _ hblock')

/-- A spend below `b`: nothing is to be restored, so the mark must be there. -/
theorem revertAt_spentBelow_iff (h : ValidChain (pre ++ blocks :: post).flatten)
    (hs : s ∈ spendHeights o blocks) (hsb : s < b) :
    ((pre ++ blocks :: post).foldl (batchAt config o) none).bind (revertedAt b) = none
      ↔ SpendSafe config b pre blocks post o s := by
  have hsafe : SpendSafe config b pre blocks post o s
      ↔ (creations o pre.flatten ≠ [] → writes blocks) :=
    ⟨fun hs => hs.below hsb, fun hw => ⟨fun _ => hw, by omega, by omega, by omega, by omega⟩⟩
  rw [hsafe, foldl_batchAt_spent h hs]
  by_cases hw : writes blocks
  · rw [if_pos hw]
    by_cases hp : purgedAfter config post s
    · simp [hp, hw]
    · simp [hp, hw, revertedAt_withSpend_below hsb]
  · rw [if_neg hw, bind_revertedAt]
    -- every earlier creation is below `b`
    have hbelow : ∀ c ∈ creations o pre.flatten, createdBelow b c := by
      intro c hc
      obtain ⟨block, hblock, hheight⟩ := exists_block_of_mem_creations hc
      obtain ⟨block', hblock', rfl⟩ := exists_block_of_mem_spendHeights hs
      have hlt := h.pre_lt block hblock block' hblock'
      simp only [createdBelow, hheight, Option.any_some, decide_eq_true_eq]
      omega
    rcases List.eq_nil_or_concat (creations o pre.flatten) with hnil | ⟨l, c, hl⟩
    · simp [hnil]
    · rw [List.concat_eq_append] at hl
      have hc : createdBelow b c := hbelow c (by simp [hl])
      simp [hl, hw, Option.filter, hc]

/-- A spend from `b` on: what the earlier batches left is restored, and has to be what was created
last below `b`. -/
theorem revertAt_spentFrom_iff (h : ValidChain (pre ++ blocks :: post).flatten)
    (hs : s ∈ spendHeights o blocks) (hbs : b ≤ s) :
    ((pre ++ blocks :: post).foldl (batchAt config o) none).bind (revertedAt b)
        = ((creations o pre.flatten ++ creations o blocks).filter (createdBelow b)).getLast?
      ↔ SpendSafe config b pre blocks post o s := by
  have hinc : pre.flatten.Pairwise fun block block' => block.blockHeight < block'.blockHeight := by
    have hinc := h.increasing
    rw [List.flatten_append] at hinc
    exact (List.pairwise_append.mp hinc).1
  have hlast : (creations o pre.flatten).getLast?.filter (createdBelow b)
        = ((creations o pre.flatten ++ creations o blocks).filter (createdBelow b)).getLast?
      ↔ (∀ c ∈ creations o blocks, ¬ createdBelow b c) ∧ OneSide b (creations o pre.flatten) :=
    getLast?_filter_append_iff (pairwise_createdBelow hinc o b) (creations_ne h.pre_lt o)
  have hsb : ¬ s < b := not_lt.mpr hbs
  -- three cases: the spend was skipped, it was written and purged, or it is still marked
  rw [foldl_batchAt_spent h hs]
  by_cases hw : writes blocks
  · rw [if_pos hw]
    by_cases hp : purgedAfter config post s
    · -- the mark is gone, and the output with it
      rw [if_pos hp, Option.bind_none, eq_comm, List.getLast?_eq_none_iff, List.filter_eq_nil_iff]
      constructor
      · intro hnone
        have hpre : ∀ c ∈ creations o pre.flatten, ¬ createdBelow b c :=
          fun c hc => hnone c (List.mem_append_left _ hc)
        refine ⟨fun hlt => absurd hlt hsb, fun _ c hc => hnone c (List.mem_append_right _ hc),
          fun _ c hc hcb => absurd hcb (hpre c hc), fun _ _ hfalse => ?_, fun _ _ _ => hpre⟩
        cases hp.symm.trans hfalse
      · intro hsafe c hc
        rcases List.mem_append.mp hc with hc | hc
        · exact hsafe.purged hbs hw hp c hc
        · exact hsafe.ownBatch hbs c hc
    · rw [if_neg hp, Option.bind_some, revertedAt_withSpend hbs]
      rcases List.eq_nil_or_concat (creations o pre.flatten) with hnil | ⟨l, c, hl⟩
      · -- the spend created the document it marks: it comes back with nothing but its outpoint
        constructor
        · intro heq
          rw [hnil] at heq
          have hmem := List.mem_of_mem_filter (List.mem_of_getLast? heq.symm)
          obtain ⟨block, -, hheight⟩ := exists_block_of_mem_creations hmem
          cases hheight
        · intro hsafe
          exact absurd hnil (hsafe.marked hbs hw (Bool.eq_false_iff.mpr hp))
      · rw [List.concat_eq_append] at hl
        have hc : (creations o pre.flatten).getLast? = some c := by rw [hl, List.getLast?_concat]
        have hmem : c ∈ creations o pre.flatten := List.mem_of_getLast? hc
        have hdel : unspend c = c := by
          unfold unspend
          rw [← (mem_creations hmem).2]
        have hne : creations o pre.flatten ≠ [] := List.ne_nil_of_mem hmem
        rw [hc] at hlast
        rw [hc, Option.getD_some, hdel, revertedAt_created hmem, hlast]
        constructor
        · rintro ⟨hown, hone⟩
          exact ⟨fun hlt => absurd hlt hsb, fun _ => hown, fun _ => hone, fun _ _ _ => hne,
            fun _ _ hpurged => absurd hpurged hp⟩
        · exact fun hsafe => ⟨hsafe.ownBatch hbs, hsafe.oneSide hbs⟩
  · -- the spend was skipped, so the output is still there
    rw [if_neg hw, bind_revertedAt, hlast]
    constructor
    · rintro ⟨hown, hone⟩
      exact ⟨fun hlt => absurd hlt hsb, fun _ => hown, fun _ => hone,
        fun _ hwrites => absurd hwrites hw, fun _ hwrites => absurd hwrites hw⟩
    · exact fun hsafe => ⟨hsafe.ownBatch hbs, hsafe.oneSide hbs⟩

theorem revertAt_spent_iff (h : ValidChain (pre ++ blocks :: post).flatten)
    (hs : s ∈ spendHeights o blocks) :
    ((pre ++ blocks :: post).foldl (batchAt config o) none).bind (revertedAt b)
        = unspentAt o (insertTransactions config
            (blocksBelow b (pre ++ blocks :: post).flatten) .empty)
      ↔ SpendSafe config b pre blocks post o s := by
  obtain ⟨hpre, hblocks, hpost, hcpost⟩ := h.spend_unique hs
  have hspends : spendHeights o (pre ++ blocks :: post).flatten = [s] := by
    rw [List.flatten_append, List.flatten_cons, spendHeights_append, spendHeights_append, hpre,
      hblocks, hpost]
    rfl
  have hcreations : creations o (pre ++ blocks :: post).flatten
      = creations o pre.flatten ++ creations o blocks := by
    rw [List.flatten_append, List.flatten_cons, creations_append, creations_append, hcpost,
      List.append_nil]
  rw [unspentAt_blocksBelow, hspends, hcreations]
  rcases lt_or_ge s b with hsb | hbs
  · rw [if_neg (by simpa using hsb)]
    exact revertAt_spentBelow_iff h hs hsb
  · rw [if_pos (by simpa using hbs)]
    exact revertAt_spentFrom_iff h hs hbs

end Spent

variable {b : ℕ}

variable {config : PurgeConfig} {batches : List (List UtxoBlock)}

/-- The purge from `b` is right at an outpoint, depending on where the batches create and spend
it. -/
theorem revertAt_iff (h : ValidChain batches.flatten) (o : OutPoint) :
    ((insertAll config batches .empty).lookup o).bind (revertedAt b)
        = unspentAt o (insertTransactions config (blocksBelow b batches.flatten) .empty)
      ↔ (spendHeights o batches.flatten = [] → OneSide b (creations o batches.flatten))
        ∧ ∀ pre blocks post s, batches = pre ++ blocks :: post → s ∈ spendHeights o blocks →
          SpendSafe config b pre blocks post o s := by
  rw [lookup_insertAll, IndexedCollection.lookup_empty]
  by_cases hs : spendHeights o batches.flatten = []
  · have hnone : ∀ pre blocks post s, batches = pre ++ blocks :: post →
        s ∈ spendHeights o blocks → SpendSafe config b pre blocks post o s := by
      rintro pre blocks post s rfl hmem
      rw [List.flatten_append, List.flatten_cons, spendHeights_append, spendHeights_append] at hs
      simp only [List.append_eq_nil_iff] at hs
      rw [hs.2.1] at hmem
      cases hmem
    rw [and_iff_left hnone, foldl_batchAt_unspent hs, bind_revertedAt, unspentAt_blocksBelow, hs,
      List.filter_nil, if_pos rfl,
      getLast?_filter_iff (pairwise_createdBelow h.increasing o b)]
    exact ⟨fun hone _ => hone, fun hone => hone rfl⟩
  · constructor
    · intro heq
      refine ⟨fun hnil => absurd hnil hs, ?_⟩
      rintro pre blocks post s rfl hmem
      exact (revertAt_spent_iff h hmem).mp heq
    · rintro ⟨-, hsafe⟩
      obtain ⟨s, hmem⟩ := List.exists_mem_of_ne_nil _ hs
      rw [flatMap_flatten_spendHeights, List.mem_flatMap] at hmem
      obtain ⟨blocks, hblocks, hmem⟩ := hmem
      obtain ⟨pre, post, rfl⟩ := List.append_of_mem hblocks
      exact (revertAt_spent_iff h hmem).mpr (hsafe pre blocks post s rfl hmem)

/-! ### The revert -/

/-- Ranges `[lo, hi)` that start at `b` or above and cover the heights from `b` to `n`. -/
structure Covers (b n : ℕ) (ranges : List (ℤ × ℤ)) : Prop where
  above : ∀ range ∈ ranges, (b : ℤ) ≤ range.1
  covered : ∀ h : ℕ, b ≤ h → h ≤ n → ∃ range ∈ ranges, range.1 ≤ (h : ℤ) ∧ (h : ℤ) < range.2

theorem foldl_deleteTransactionsInRange (ranges : List (ℤ × ℤ)) (utxos : Utxos) :
    ranges.foldl (fun utxos range => deleteTransactionsInRange range.1 range.2 utxos) utxos
      = purgeRanges (ranges.map fun range => .between range.1 range.2) utxos := by
  unfold purgeRanges deleteTransactionsInRange
  rw [List.foldl_map]

variable {height : ℕ}

theorem ValidChain.height_le {blocks : List UtxoBlock} (h : ValidChain blocks)
    (hin : heightIn blocks height) : height ≤ blocks.length := by
  obtain ⟨block, hblock, rfl⟩ := hin
  have hmem := List.mem_map_of_mem (f := UtxoBlock.blockHeight) hblock
  rw [h.heights, List.mem_range'_1] at hmem
  omega

theorem Covers.any_contains {n : ℕ} {ranges : List (ℤ × ℤ)} (h : Covers b n ranges)
    (hn : height ≤ n) :
    ((ranges.map fun range => HeightRange.between range.1 range.2).any
      fun range => range.contains height) = decide (b ≤ height) := by
  rw [Bool.eq_iff_iff, List.any_eq_true, decide_eq_true_eq]
  constructor
  · rintro ⟨_, hmem, hcontains⟩
    obtain ⟨range, hrange, rfl⟩ := List.mem_map.mp hmem
    have hlo := h.above range hrange
    simp only [HeightRange.contains, Bool.and_eq_true, decide_eq_true_eq] at hcontains
    omega
  · intro hb
    obtain ⟨range, hrange, hlo, hhi⟩ := h.covered height hb hn
    exact ⟨_, List.mem_map_of_mem hrange, by simp [HeightRange.contains, hlo, hhi]⟩

/-- A purge that covers exactly the heights from `b` on is right if and only if the batches are
safe. -/
theorem unspentSet_purgeRanges_iff (ranges : List HeightRange) (h : ValidChain batches.flatten)
    (hranges : ∀ height, height ≤ batches.flatten.length →
      (ranges.any fun range => range.contains height) = decide (b ≤ height)) :
    unspentSet (purgeRanges ranges (insertAll config batches .empty))
        = unspentSet (insertTransactions config (blocksBelow b batches.flatten) .empty)
      ↔ RevertSafe config batches b := by
  have hat : ∀ o, unspentAt o (purgeRanges ranges (insertAll config batches .empty))
      = ((insertAll config batches .empty).lookup o).bind (revertedAt b) := by
    intro o
    apply unspentAt_purgeRanges
    intro d hd
    exact (hasHeights_insertAll hd).imp fun height hin => hranges height (h.height_le hin)
  rw [unspentSet_eq_iff]
  constructor
  · intro heq
    have hsafe := fun o => (revertAt_iff h o).mp ((hat o).symm.trans (heq o))
    exact ⟨fun o => (hsafe o).1, fun pre blocks post o s => (hsafe o).2 pre blocks post s⟩
  · intro hsafe o
    rw [hat o, revertAt_iff h o]
    exact ⟨hsafe.unspent o, fun pre blocks post s => hsafe.spent pre blocks post o s⟩

/-- **UTXO revert.** Blocks `1, …, n` of a chain are inserted in batches and purged from `b`, either
from `b` on or in ranges covering `[b, n]`. The unspent outputs are the ones of the blocks below `b`
if and only if the batches are safe. -/
theorem revertUnspentSet_iff (config : PurgeConfig) (batches : List (List UtxoBlock)) (b : ℕ)
    (h : ValidChain batches.flatten) :
    (unspentSet (deleteTransactionsFromBlockHeight b (insertAll config batches .empty))
        = unspentSet (insertTransactions config (blocksBelow b batches.flatten) .empty)
      ↔ RevertSafe config batches b)
    ∧ ∀ ranges, Covers b batches.flatten.length ranges →
      (unspentSet (ranges.foldl
          (fun utxos range => deleteTransactionsInRange range.1 range.2 utxos)
          (insertAll config batches .empty))
        = unspentSet (insertTransactions config (blocksBelow b batches.flatten) .empty)
      ↔ RevertSafe config batches b) := by
  constructor
  · refine unspentSet_purgeRanges_iff [.atLeast b] h fun height _ => ?_
    simp [HeightRange.contains]
  · intro ranges hcovers
    rw [foldl_deleteTransactionsInRange]
    exact unspentSet_purgeRanges_iff _ h fun height hle => hcovers.any_contains hle

/-! ### An output spent in its own batch -/

/-- Block 2 spends the output of block 1 and creates one of its own. -/
def respendingBlock : UtxoBlock where
  blockHeight := 2
  transactions := [⟨[2], [⟨some [1], some 0⟩], [⟨0, 4000, ⟨[0x51], some "bc1p", none⟩⟩]⟩]

/-- In two batches, the output of block 1 comes back. -/
theorem revertUnspentSet_twoBatches :
    ValidChain [[creatingBlock], [respendingBlock]].flatten ∧ Covers 2 2 [(2, 3)] ∧
      RevertSafe ⟨true, 100⟩ [[creatingBlock], [respendingBlock]] 2 ∧
      unspentSet (deleteTransactionsInRange 2 3
          (insertAll ⟨true, 100⟩ [[creatingBlock], [respendingBlock]] .empty))
        = unspentSet (insertTransactions ⟨true, 100⟩
            (blocksBelow 2 [[creatingBlock], [respendingBlock]].flatten) .empty) := by
  have hvalid : ValidChain [[creatingBlock], [respendingBlock]].flatten :=
    ⟨by decide, by decide, by decide⟩
  have hcovers : Covers 2 2 [(2, 3)] := by
    refine ⟨by simp, fun h hlo hhi => ⟨(2, 3), by simp, ?_⟩⟩
    show (2 : ℤ) ≤ h ∧ (h : ℤ) < 3
    omega
  obtain ⟨hfrom, hranges⟩ :=
    revertUnspentSet_iff ⟨true, 100⟩ [[creatingBlock], [respendingBlock]] 2 hvalid
  have hsafe : RevertSafe ⟨true, 100⟩ [[creatingBlock], [respendingBlock]] 2 := by
    apply hfrom.mp
    have hdocs : (deleteTransactionsFromBlockHeight 2
        (insertAll ⟨true, 100⟩ [[creatingBlock], [respendingBlock]] .empty)).docs
        = (insertTransactions ⟨true, 100⟩
            (blocksBelow 2 [[creatingBlock], [respendingBlock]].flatten) .empty).docs := by decide
    exact congrArg unspentSet (IndexedCollection.ext hdocs)
  exact ⟨hvalid, hcovers, hsafe, (hranges [(2, 3)] hcovers).mpr hsafe⟩

/-- Both blocks in one batch: the output of block 1 is not written, the spend's upsert makes a
document for it, and the revert of block 2 leaves that without value, height or script. -/
theorem revertUnspentSet_sameBatch :
    unspentSet (deleteTransactionsFromBlockHeight 2
        (insertAll ⟨false, 0⟩ [[creatingBlock, respendingBlock]] .empty))
      ≠ unspentSet (insertTransactions ⟨false, 0⟩
          (blocksBelow 2 [[creatingBlock, respendingBlock]].flatten) .empty) := by
  intro h
  have hat := unspentSet_eq_iff.mp h ([1], 0)
  revert hat
  decide

end UnspentTransactionRepository

end OpnetNode
