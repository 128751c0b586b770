import OpnetNode.Utxo.Equiv.Outpoint

/-!
# Cutting blocks into batches

* `foldl_batchAt_spec`: the document of an outpoint after a list of batches: spent if a batch that
  has an output to write spends it, and otherwise what was written last.
* `unspentAt_oneBatch`: one batch leaves exactly the outputs that are created and not spent.
* `unspentAt_insertAll_eq_iff`: a cut gives the same at an outpoint, unless the outpoint is written
  by one batch and spent only by batches without an output to write.
* `batchIndependence_iff`: all cuts of a list of blocks agree if and only if no cut loses a spend.
* `batchIndependence_emptyBatch`: a batch that spends and writes nothing loses its spend.
-/

namespace OpnetNode

namespace UnspentTransactionRepository

/-- The purge before a batch is configured. -/
def purging (config : PurgeConfig) : Bool :=
  config.ALLOW_PURGE && config.PURGE_SPENT_UTXO_OLDER_THAN_BLOCKS != 0

/-- What the batches write at an outpoint: each its creations, unless it spends the outpoint. -/
def written (o : OutPoint) (batches : List (List UtxoBlock)) : List UnspentTransaction :=
  batches.flatMap fun blocks => if (spendHeights o blocks).isEmpty then creations o blocks else []

/-- A batch that has an output to write spends the outpoint. -/
def marked (o : OutPoint) (batches : List (List UtxoBlock)) : Bool :=
  batches.any fun blocks => writes blocks && !(spendHeights o blocks).isEmpty

theorem written_append (o : OutPoint) (batches batches' : List (List UtxoBlock)) :
    written o (batches ++ batches') = written o batches ++ written o batches' :=
  List.flatMap_append

theorem marked_append (o : OutPoint) (batches batches' : List (List UtxoBlock)) :
    marked o (batches ++ batches') = (marked o batches || marked o batches') :=
  List.any_append

variable {o : OutPoint} {batches : List (List UtxoBlock)}

theorem mem_written {d : UnspentTransaction}
    (h : d ∈ written o batches) : d.outPoint = o ∧ d.deletedAtBlock = none := by
  obtain ⟨blocks, -, hmem⟩ := List.mem_flatMap.mp h
  split at hmem
  · exact mem_creations hmem
  · cases hmem

/-- An outpoint is not created after it was spent. -/
def SpentLast (o : OutPoint) (batches : List (List UtxoBlock)) : Prop :=
  batches.Pairwise fun blocks blocks' => spendHeights o blocks ≠ [] → creations o blocks' = []

variable {config : PurgeConfig}

theorem purges_eq_false (h : purging config = false)
    (blocks : List UtxoBlock) (height : ℕ) : purges config blocks height = false := by
  unfold purging at h
  simp [purges, purgeHeight, h]

variable {blocks : List UtxoBlock} {d : Option UnspentTransaction}

theorem filter_purges_of_none (h : ∀ e, d = some e → e.deletedAtBlock = none) :
    d.filter (fun d => !d.deletedAtBlock.any (purges config blocks)) = d := by
  cases d with
  | none => rfl
  | some e => simp [Option.filter, h e rfl]

theorem filter_purges_of_not_purging (h : purging config = false)
    (blocks : List UtxoBlock) (d : Option UnspentTransaction) :
    d.filter (fun d => !d.deletedAtBlock.any (purges config blocks)) = d := by
  cases d with
  | none => rfl
  | some e => cases he : e.deletedAtBlock <;> simp [Option.filter, he, purges_eq_false h]

theorem withOutput_getD {created : UnspentTransaction}
    (hc : created.outPoint = o ∧ created.deletedAtBlock = none)
    (hd : ∀ e, d = some e → e.outPoint = o ∧ e.deletedAtBlock = none) :
    withOutput created (d.getD (.bare o)) = created := by
  obtain ⟨outPoint, blockHeight, value, scriptPubKey, deletedAtBlock⟩ := created
  obtain ⟨rfl, rfl⟩ := hc
  cases d with
  | none => rfl
  | some e =>
    obtain ⟨ho, hdel⟩ := hd e rfl
    unfold withOutput
    rw [Option.getD_some, ho, hdel]

/-! ### The document of an outpoint after some batches -/

/-- The document is marked if a batch that could mark it did, and otherwise is what was written
last. -/
structure Outcome (config : PurgeConfig) (o : OutPoint) (batches : List (List UtxoBlock))
    (d : Option UnspentTransaction) : Prop where
  spent : marked o batches → ∀ e, d = some e → e.deletedAtBlock.isSome
  present : marked o batches → purging config = false → d.isSome
  unspent : marked o batches = false → d = (written o batches).getLast?

theorem exists_spends_of_marked
    (h : marked o batches) : ∃ blocks ∈ batches, spendHeights o blocks ≠ [] := by
  obtain ⟨blocks, hmem, hspends⟩ := List.any_eq_true.mp h
  refine ⟨blocks, hmem, ?_⟩
  intro hnil
  simp [hnil] at hspends

theorem marked_concat (o : OutPoint) (batches : List (List UtxoBlock)) (blocks : List UtxoBlock) :
    marked o (batches ++ [blocks])
      = (marked o batches || (writes blocks && !(spendHeights o blocks).isEmpty)) := by
  rw [marked_append]
  simp [marked]

theorem written_concat (o : OutPoint) (batches : List (List UtxoBlock)) (blocks : List UtxoBlock) :
    written o (batches ++ [blocks]) = written o batches
      ++ (if (spendHeights o blocks).isEmpty then creations o blocks else []) := by
  rw [written_append]
  simp [written]

theorem creations_of_not_writes
    (hwrites : writes blocks = false) (hspends : spendHeights o blocks = []) :
    creations o blocks = [] := by
  by_contra hcreated
  have htrue := writes_of_creations hcreated hspends
  cases hwrites.symm.trans htrue

theorem isSome_batchAt (hpurging : purging config = false) (o : OutPoint)
    (hd : d.isSome) (blocks : List UtxoBlock) :
    (batchAt config o d blocks).isSome := by
  have heffect := batchAt_effect config o d blocks
  rw [filter_purges_of_not_purging hpurging] at heffect
  generalize batchAt config o d blocks = after at heffect
  cases heffect with
  | spent | created => rfl
  | kept hidle => exact hd

theorem isSome_deletedAtBlock_batchAt (h : Outcome config o batches d) (hmarked : marked o batches)
    (hlast : purging config → SpentLast o (batches ++ [blocks])) {e : UnspentTransaction}
    (he : batchAt config o d blocks = some e) : e.deletedAtBlock.isSome := by
  have heffect := batchAt_effect config o d blocks
  generalize batchAt config o d blocks = after at he heffect
  cases heffect with
  | spent hwrites hspends =>
    obtain rfl := Option.some.inj he
    rfl
  | created hwrites hspends hcreated =>
    -- created after it was spent: only without a purge, and then the mark is still there
    cases hpurging : purging config with
    | true =>
      obtain ⟨blocks₀, hmem₀, hspends₀⟩ := exists_spends_of_marked hmarked
      have hnil : creations o blocks = [] :=
        (List.pairwise_append.mp (hlast hpurging)).2.2 blocks₀ hmem₀ blocks
          (List.mem_singleton_self _) hspends₀
      rw [hnil] at hcreated
      cases hcreated
    | false =>
      rw [filter_purges_of_not_purging hpurging] at he
      obtain ⟨e₀, he₀⟩ := Option.isSome_iff_exists.mp (h.present hmarked hpurging)
      cases he
      rw [he₀]
      exact h.spent hmarked e₀ he₀
  | kept hidle => exact h.spent hmarked e (Option.filter_eq_some_iff.mp he).1

theorem outcome_batchAt_of_unmarked
    (hd : d = (written o batches).getLast?) (hunmarked : marked o batches = false) :
    Outcome config o (batches ++ [blocks]) (batchAt config o d blocks) := by
  have hold : ∀ e, d = some e → e.outPoint = o ∧ e.deletedAtBlock = none := by
    intro e he
    rw [hd] at he
    exact mem_written (List.mem_of_getLast? he)
  have hmarked := marked_concat o batches blocks
  have hwritten := written_concat o batches blocks
  rw [hunmarked, Bool.false_or] at hmarked
  -- what is not marked is not purged either
  have heffect := batchAt_effect config o d blocks
  rw [filter_purges_of_none fun e he => (hold e he).2] at heffect
  generalize batchAt config o d blocks = after at heffect
  cases heffect with
  | spent hwrites hspends =>
    have hne : spendHeights o blocks ≠ [] := by
      intro hnil
      rw [hnil] at hspends
      cases hspends
    refine ⟨fun _ e he => ?_, fun _ _ => rfl, fun hfalse => ?_⟩
    · cases he
      rfl
    · rw [hmarked, hwrites] at hfalse
      simp [hne] at hfalse
  | created hwrites hspends hcreated =>
    -- the last creation of the batch is written over whatever was there
    rw [hspends, List.isEmpty_nil, Bool.not_true, Bool.and_false] at hmarked
    rw [hspends, List.isEmpty_nil, if_pos rfl] at hwritten
    refine ⟨fun htrue => ?_, fun htrue => ?_, fun _ => ?_⟩
    · exact absurd (hmarked.symm.trans htrue) Bool.false_ne_true
    · exact absurd (hmarked.symm.trans htrue) Bool.false_ne_true
    · rw [hwritten, List.getLast?_append, hcreated,
        withOutput_getD (mem_creations (List.mem_of_getLast? hcreated)) hold]
      rfl
  | kept hidle =>
    have hnone : (writes blocks && !(spendHeights o blocks).isEmpty) = false := by
      rcases hidle with hwrites | ⟨hspends, -⟩
      · rw [hwrites, Bool.false_and]
      · rw [hspends, List.isEmpty_nil, Bool.not_true, Bool.and_false]
    have hnil : (if (spendHeights o blocks).isEmpty then creations o blocks else []) = [] := by
      split
      · rename_i hspends
        rcases hidle with hwrites | ⟨-, hcreated⟩
        · exact creations_of_not_writes hwrites (List.isEmpty_iff.mp hspends)
        · exact hcreated
      · rfl
    refine ⟨fun htrue => ?_, fun htrue => ?_, fun _ => ?_⟩
    · exact absurd (hnone.symm.trans (hmarked.symm.trans htrue)) Bool.false_ne_true
    · exact absurd (hnone.symm.trans (hmarked.symm.trans htrue)) Bool.false_ne_true
    · rw [hwritten, hnil, List.append_nil]
      exact hd

theorem outcome_batchAt (h : Outcome config o batches d)
    (hlast : purging config → SpentLast o (batches ++ [blocks])) :
    Outcome config o (batches ++ [blocks]) (batchAt config o d blocks) := by
  cases hmarked : marked o batches with
  | true =>
    refine ⟨fun _ e he => isSome_deletedAtBlock_batchAt h hmarked hlast he,
      fun _ hpurging => isSome_batchAt hpurging o (h.present hmarked hpurging) blocks, ?_⟩
    intro hfalse
    rw [marked_concat, hmarked] at hfalse
    cases hfalse
  | false => exact outcome_batchAt_of_unmarked (h.unspent hmarked) hmarked

theorem foldl_batchAt_spec (hlast : purging config → SpentLast o batches) :
    Outcome config o batches (batches.foldl (batchAt config o) none) := by
  -- from the last batch: `marked` and `written` grow at their ends
  induction batches using List.reverseRecOn with
  | nil =>
    exact ⟨fun h => absurd h Bool.false_ne_true, fun h => absurd h Bool.false_ne_true, fun _ => rfl⟩
  | append_singleton batches blocks ih =>
    rw [List.foldl_append, List.foldl_cons, List.foldl_nil]
    exact outcome_batchAt (ih fun h => (List.pairwise_append.mp (hlast h)).1) hlast

/-! ### Cuts -/

variable {cut : List (List UtxoBlock)}

theorem unspentAt_insertAll (hlast : purging config → SpentLast o cut) :
    unspentAt o (insertAll config cut .empty)
      = if marked o cut then none else (written o cut).getLast? := by
  have h := foldl_batchAt_spec hlast
  unfold unspentAt
  rw [lookup_insertAll, IndexedCollection.lookup_empty]
  cases hm : marked o cut with
  | true =>
    rw [if_pos rfl]
    cases hd : cut.foldl (batchAt config o) none with
    | none => rfl
    | some e =>
      have hsome := h.spent hm e hd
      cases he : e.deletedAtBlock with
      | none => rw [he] at hsome; cases hsome
      | some height => simp [Option.filter, he]
  | false =>
    rw [if_neg (by simp), h.unspent hm]
    cases hw : (written o cut).getLast? with
    | none => rfl
    | some e => simp [Option.filter, (mem_written (List.mem_of_getLast? hw)).2]

/-- One batch leaves exactly the outputs that are created and not spent. -/
theorem unspentAt_oneBatch (config : PurgeConfig) (o : OutPoint) (blocks : List UtxoBlock) :
    unspentAt o (insertAll config [blocks] .empty)
      = if (spendHeights o blocks).isEmpty then (creations o blocks).getLast? else none := by
  rw [unspentAt_insertAll fun _ => List.pairwise_singleton _ _]
  by_cases hs : spendHeights o blocks = []
  · simp [marked, written, hs]
  · simp [marked, written, hs]

theorem flatMap_flatten_creations (o : OutPoint) (cut : List (List UtxoBlock)) :
    creations o cut.flatten = cut.flatMap (creations o) := by
  induction cut with
  | nil => rfl
  | cons blocks cut ih => rw [List.flatten_cons, creations_append, ih, List.flatMap_cons]

theorem flatMap_flatten_spendHeights (o : OutPoint) (cut : List (List UtxoBlock)) :
    spendHeights o cut.flatten = cut.flatMap (spendHeights o) := by
  induction cut with
  | nil => rfl
  | cons blocks cut ih => rw [List.flatten_cons, spendHeights_append, ih, List.flatMap_cons]

/-- A cut loses no spend: an outpoint that is spent, and that some batch writes, is spent by a batch
that has an output to write. -/
def NoLostSpend (cut : List (List UtxoBlock)) : Prop :=
  ∀ o, spendHeights o cut.flatten ≠ [] → written o cut ≠ [] → marked o cut

theorem marked_of_not_spent (h : spendHeights o cut.flatten = []) : marked o cut = false := by
  rw [flatMap_flatten_spendHeights, List.flatMap_eq_nil_iff] at h
  unfold marked
  rw [List.any_eq_false]
  intro blocks hmem
  simp [h blocks hmem]

theorem written_of_not_spent
    (h : spendHeights o cut.flatten = []) : written o cut = creations o cut.flatten := by
  rw [flatMap_flatten_spendHeights, List.flatMap_eq_nil_iff] at h
  rw [flatMap_flatten_creations]
  unfold written
  rw [List.flatMap_def, List.flatMap_def]
  congr 1
  apply List.map_congr_left
  intro blocks hmem
  rw [h blocks hmem]
  rfl

/-- A cut agrees with the single batch at an outpoint, unless it loses its spends. -/
theorem unspentAt_insertAll_eq_iff (hlast : purging config → SpentLast o cut) :
    unspentAt o (insertAll config cut .empty)
        = unspentAt o (insertAll config [cut.flatten] .empty)
      ↔ (spendHeights o cut.flatten ≠ [] → written o cut ≠ [] → marked o cut) := by
  rw [unspentAt_insertAll hlast, unspentAt_oneBatch]
  by_cases hs : spendHeights o cut.flatten = []
  · simp [hs, marked_of_not_spent hs, written_of_not_spent hs]
  · have hne : ¬ (spendHeights o cut.flatten).isEmpty := by simpa using hs
    rw [if_neg hne]
    cases hm : marked o cut with
    | true => simp
    | false => simp [hs]

/-- No outpoint is created in a block after one that spends it. -/
def SpendsFollowCreations (blocks : List UtxoBlock) : Prop :=
  blocks.Pairwise fun block block' =>
    ∀ spent ∈ convertSpentTransactions [block], ∀ created ∈ createdTransactions [block'],
      spent.outPoint ≠ created.outPoint

instance decidableSpendsFollowCreations (blocks : List UtxoBlock) :
    Decidable (SpendsFollowCreations blocks) :=
  inferInstanceAs (Decidable (blocks.Pairwise _))

theorem spentLast_of_spendsFollowCreations
    (h : SpendsFollowCreations cut.flatten) (o : OutPoint) : SpentLast o cut := by
  refine (List.pairwise_flatten.mp h).2.imp ?_
  intro blocks blocks' hsep hspends
  rw [creations_eq_flatMap, List.flatMap_eq_nil_iff]
  intro block' hblock'
  rw [spendHeights_eq_flatMap] at hspends
  obtain ⟨block, hblock, hne⟩ : ∃ block ∈ blocks, spendHeights o [block] ≠ [] := by
    by_contra hnot
    apply hspends
    rw [List.flatMap_eq_nil_iff]
    intro block hblock
    by_contra hne
    exact hnot ⟨block, hblock, hne⟩
  obtain ⟨height, hheight⟩ := List.exists_mem_of_ne_nil _ hne
  obtain ⟨spent, hspent, -⟩ := List.mem_map.mp hheight
  obtain ⟨hmem, ho⟩ := List.mem_filter.mp hspent
  apply List.filter_eq_nil_iff.mpr
  intro created hcreated ho'
  apply hsep block hblock block' hblock' spent hmem created hcreated
  rw [of_decide_eq_true ho, of_decide_eq_true ho']

/-- **Batch independence.** Any two cuts of a list of blocks leave the same unspent outputs if and
only if no cut of it loses a spend. With the purge of old spends configured, this takes blocks that
do not create an outpoint after it was spent. -/
theorem batchIndependence_iff (config : PurgeConfig) (blocks : List UtxoBlock)
    (hvalid : purging config → SpendsFollowCreations blocks) :
    (∀ cut cut' : List (List UtxoBlock), cut.flatten = blocks → cut'.flatten = blocks →
        unspentSet (insertAll config cut .empty) = unspentSet (insertAll config cut' .empty))
      ↔ ∀ cut : List (List UtxoBlock), cut.flatten = blocks → NoLostSpend cut := by
  have hlast : ∀ cut : List (List UtxoBlock), cut.flatten = blocks →
      ∀ o, purging config → SpentLast o cut := by
    rintro cut rfl o hpurging
    exact spentLast_of_spendsFollowCreations (hvalid hpurging) o
  constructor
  · intro h cut hcut o
    have heq := unspentSet_eq_iff.mp (h cut [blocks] hcut (by simp)) o
    subst hcut
    exact (unspentAt_insertAll_eq_iff (hlast cut rfl o)).mp heq
  · intro h cut cut' hcut hcut'
    have hone : ∀ cut : List (List UtxoBlock), cut.flatten = blocks →
        ∀ o, unspentAt o (insertAll config cut .empty)
          = unspentAt o (insertAll config [blocks] .empty) := by
      rintro cut rfl o
      exact (unspentAt_insertAll_eq_iff (hlast cut rfl o)).mpr (h cut rfl o)
    rw [unspentSet_eq_iff]
    intro o
    rw [hone cut hcut o, hone cut' hcut' o]

/-! ### A batch that only spends -/

/-- Block 1 creates an output. -/
def creatingBlock : UtxoBlock where
  blockHeight := 1
  transactions := [⟨[1], [⟨none, none⟩], [⟨0, 5000, ⟨[0x51], some "bc1p", none⟩⟩]⟩]

/-- Block 2 spends it and has no output that is indexed. -/
def spendingBlock : UtxoBlock where
  blockHeight := 2
  transactions := [⟨[2], [⟨some [1], some 0⟩], [⟨0, 0, ⟨[0x6a], none, none⟩⟩]⟩]

theorem batchIndependence_purging :
    SpendsFollowCreations [creatingBlock, spendingBlock] ∧
      ((∀ cut cut' : List (List UtxoBlock), cut.flatten = [creatingBlock, spendingBlock] →
          cut'.flatten = [creatingBlock, spendingBlock] →
          unspentSet (insertAll ⟨true, 100⟩ cut .empty)
            = unspentSet (insertAll ⟨true, 100⟩ cut' .empty))
        ↔ ∀ cut : List (List UtxoBlock), cut.flatten = [creatingBlock, spendingBlock] →
          NoLostSpend cut) := by
  have hvalid : SpendsFollowCreations [creatingBlock, spendingBlock] := by decide
  exact ⟨hvalid, batchIndependence_iff ⟨true, 100⟩ [creatingBlock, spendingBlock] fun _ => hvalid⟩

/-- The two blocks in two batches: the second has nothing to write, and the output stays unspent. -/
theorem batchIndependence_emptyBatch :
    unspentSet (insertAll ⟨false, 0⟩ [[creatingBlock], [spendingBlock]] .empty)
      ≠ unspentSet (insertAll ⟨false, 0⟩ [[creatingBlock, spendingBlock]] .empty) := by
  intro h
  have hat := unspentSet_eq_iff.mp h ([1], 0)
  revert hat
  decide

end UnspentTransactionRepository

end OpnetNode
