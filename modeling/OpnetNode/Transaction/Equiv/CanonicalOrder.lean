import OpnetNode.Transaction.Equiv.Traversal

/-!
# The canonical order of a block's transactions

`sortTransactions_canonical`: the sorter returns its input in an order in which the coinbase
transaction is first, every other one comes after the in-block transactions it spends from, and is
the one to precede among those whose parents are out.  There is one such order, so that the result
does not depend on the order of the input.
-/

namespace OpnetNode.TransactionSorter

open Greedy PriorityQueue

variable {txs : List Transaction}

variable {tx : Transaction}

/-- The transaction has no input of a coinbase transaction exactly if it is not a reward. -/
theorem mem_nonBlockRewards : tx ∈ nonBlockRewards txs ↔ tx ∈ txs ∧ isReward tx = false := by
  unfold nonBlockRewards isReward
  rw [List.mem_filter]
  refine and_congr Iff.rfl ?_
  rw [List.any_eq_false, List.all_eq_true]
  simp

theorem mem_blockRewards : tx ∈ blockRewards txs ↔ tx ∈ txs ∧ isReward tx = true := List.mem_filter

theorem nonBlockRewards_eq (txs : List Transaction) :
    nonBlockRewards txs = txs.filter fun tx => !isReward tx := by
  unfold nonBlockRewards
  apply List.filter_congr
  intro tx _
  unfold isReward
  rw [List.not_any_eq_all_not]
  simp

theorem perm_rewards (txs : List Transaction) : (blockRewards txs ++ nonBlockRewards txs).Perm txs := by
  rw [nonBlockRewards_eq]
  exact List.filter_append_perm isReward txs

theorem acyclic_nonBlockRewards (h : Acyclic parentOf txs) :
    Acyclic parentOf (nonBlockRewards txs) := by
  intro a ha hcycle
  have hle : ParentIn parentOf (nonBlockRewards txs) ≤ ParentIn parentOf txs := fun p c hpc =>
    ⟨(mem_nonBlockRewards.mp hpc.1).1, (mem_nonBlockRewards.mp hpc.2.1).1, hpc.2.2⟩
  exact h a (mem_nonBlockRewards.mp ha).1 (Relation.TransGen.mono hle a a hcycle)

theorem sublist_nonBlockRewards (txs : List Transaction) : (nonBlockRewards txs).Sublist txs :=
  List.filter_sublist

variable {Q : PriorityQueue PriorityCache String Transaction}

theorem sortTransactions_spec (hQ : Q.Lawful)
    (hids : (ids txs).Nodup) (hhashes : (txs.map Transaction.computedIndexingHash).Nodup)
    (hacyclic : Acyclic parentOf txs) :
    ∃ order, sortTransactions Q txs = .ok (setIndexes (blockRewards txs ++ order)) ∧
      IsGreedy parentOf (Precedes (nonBlockRewards txs)) (nonBlockRewards txs) order := by
  have hids' : (ids (nonBlockRewards txs)).Nodup :=
    hids.sublist ((sublist_nonBlockRewards txs).map _)
  have hhashes' : ∀ a ∈ nonBlockRewards txs, ∀ b ∈ nonBlockRewards txs,
      a.computedIndexingHash = b.computedIndexingHash → a = b := by
    intro a ha b hb heq
    exact List.inj_on_of_nodup_map hhashes (mem_nonBlockRewards.mp ha).1
      (mem_nonBlockRewards.mp hb).1 heq
  obtain ⟨order, hrun, hgreedy⟩ :=
    sortByFeeWithDependencies_spec hQ hids' hhashes' (acyclic_nonBlockRewards hacyclic)
  refine ⟨order, ?_, hgreedy⟩
  have hlength : (blockRewards txs ++ order).length = txs.length := by
    rw [((hgreedy.perm.append_left _).trans (perm_rewards txs)).length_eq]
  unfold sortTransactions
  rw [hrun]
  show (if (blockRewards txs ++ order).length ≠ txs.length then _ else _) = _
  rw [if_neg (not_not.mpr hlength)]

theorem sortTransactions_perm (hQ : Q.Lawful)
    (hids : (ids txs).Nodup) (hhashes : (txs.map Transaction.computedIndexingHash).Nodup)
    (hcoinbase : (blockRewards txs).length ≤ 1) (hacyclic : Acyclic parentOf txs)
    {txs' : List Transaction} (hperm : txs'.Perm txs) :
    sortTransactions Q txs' = sortTransactions Q txs := by
  have hmem (a : Transaction) : a ∈ nonBlockRewards txs' ↔ a ∈ nonBlockRewards txs := by
    rw [mem_nonBlockRewards, mem_nonBlockRewards, hperm.mem_iff]
  have hacyclic' : Acyclic parentOf txs' := by
    intro a ha
    rw [parentIn_congr fun b => hperm.mem_iff]
    exact hacyclic a (hperm.mem_iff.mp ha)
  obtain ⟨order, hrun, hgreedy⟩ := sortTransactions_spec hQ hids hhashes hacyclic
  obtain ⟨order', hrun', hgreedy'⟩ := sortTransactions_spec hQ
    ((hperm.map _).nodup_iff.mpr hids) ((hperm.map _).nodup_iff.mpr hhashes) hacyclic'
  have hrewards : blockRewards txs' = blockRewards txs := by
    have hfilter : (blockRewards txs').Perm (blockRewards txs) := hperm.filter isReward
    rcases hlist : blockRewards txs with _ | ⟨a, _ | ⟨b, rest⟩⟩
    · rw [hlist] at hfilter
      exact List.perm_nil.mp hfilter
    · rw [hlist] at hfilter
      exact List.perm_singleton.mp hfilter
    · rw [hlist] at hcoinbase
      simp at hcoinbase
  have horder : order' = order := by
    have hsame : IsGreedy parentOf (Precedes (nonBlockRewards txs)) (nonBlockRewards txs) order' := by
      refine ⟨hgreedy'.perm.trans (hperm.filter _), fun pre a post heq => ?_, ?_⟩
      · exact (hgreedy'.ready pre a post heq).congr fun b hb => (hmem b).mpr hb
      · intro pre a post heq b hb hready
        rw [← precedes_congr hmem a b]
        exact hgreedy'.best pre a post heq b hb (hready.congr fun c hc => (hmem c).mp hc)
    exact hsame.unique (fun _ _ h => h.asymm) hgreedy
  rw [hrun, hrun', hrewards, horder]

/-- The coinbase transaction is first, every other one comes after those it spends from, and is the
one to precede among those whose parents are out; and the result is the same for every order of the
input. -/
theorem sortTransactions_canonical {Q : PriorityQueue PriorityCache String Transaction}
    (hQ : Q.Lawful) (txs : List Transaction) (hids : (txs.map (·.transactionIdString)).Nodup)
    (hhashes : (txs.map (·.computedIndexingHash)).Nodup) (hcoinbase : (blockRewards txs).length ≤ 1)
    (hacyclic : Acyclic parentOf txs) :
    (∃ order, sortTransactions Q txs = .ok (setIndexes order) ∧ order.Perm txs ∧
      (∀ tx ∈ order, isReward tx = true → order.head? = some tx) ∧
      ∀ pre tx post, order = pre ++ tx :: post → isReward tx = false →
        (∀ p ∈ txs, Spends tx p → p ∈ pre) ∧
        ∀ other ∈ post, (∀ p ∈ txs, Spends other p → p ∈ pre) →
          Precedes (nonBlockRewards txs) tx other) ∧
      ∀ txs', txs'.Perm txs → sortTransactions Q txs' = sortTransactions Q txs := by
  refine ⟨?_, fun txs' hperm => sortTransactions_perm hQ hids hhashes hcoinbase hacyclic hperm⟩
  obtain ⟨order, hrun, hgreedy⟩ := sortTransactions_spec hQ hids hhashes hacyclic
  have hperm : (blockRewards txs ++ order).Perm txs :=
    (hgreedy.perm.append_left _).trans (perm_rewards txs)
  have horder (tx : Transaction) (htx : tx ∈ order) : isReward tx = false :=
    (mem_nonBlockRewards.mp (hgreedy.perm.mem_iff.mp htx)).2
  refine ⟨blockRewards txs ++ order, hrun, hperm, fun tx htx hreward => ?_, ?_⟩
  · have hmem : tx ∈ blockRewards txs := by
      rcases List.mem_append.mp htx with hmem | hmem
      · exact hmem
      · rw [horder tx hmem] at hreward
        cases hreward
    rcases hlist : blockRewards txs with _ | ⟨a, _ | ⟨b, rest⟩⟩
    · rw [hlist] at hmem
      exact absurd hmem List.not_mem_nil
    · rw [hlist] at hmem
      rw [List.mem_singleton.mp hmem]
      rfl
    · rw [hlist] at hcoinbase
      simp at hcoinbase
  · intro pre tx post heq hreward
    -- The rewards come before the transaction, so it is one of the others.
    obtain ⟨pre', hpre, hrest⟩ : ∃ pre', pre = blockRewards txs ++ pre' ∧ order = pre' ++ tx :: post := by
      rcases List.append_eq_append_iff.mp heq with ⟨pre', hpre, hrest⟩ | ⟨rest, hrewards, hrest⟩
      · exact ⟨pre', hpre, hrest⟩
      · rcases rest with _ | ⟨a, rest⟩
        · exact ⟨[], by simpa using hrewards.symm, by simpa using hrest.symm⟩
        · obtain ⟨rfl, -⟩ : a = tx ∧ rest ++ order = post := by
            simpa [eq_comm] using hrest
          have ha : a ∈ blockRewards txs := by rw [hrewards]; simp
          rw [(mem_blockRewards.mp ha).2] at hreward
          cases hreward
    have hsplit {a : Transaction} (h : ∀ p ∈ txs, Spends a p → p ∈ pre) :
        Ready parentOf (nonBlockRewards txs) pre' a := by
      intro p hp hspends
      obtain ⟨hptxs, hpreward⟩ := mem_nonBlockRewards.mp hp
      have hin := h p hptxs hspends
      rw [hpre] at hin
      rcases List.mem_append.mp hin with hin | hin
      · rw [(mem_blockRewards.mp hin).2] at hpreward
        cases hpreward
      · exact hin
    refine ⟨fun p hp hspends => ?_, fun other hother hready => ?_⟩
    · rw [hpre, List.mem_append]
      by_cases hpreward : isReward p = true
      · exact Or.inl (mem_blockRewards.mpr ⟨hp, hpreward⟩)
      · have hpother := mem_nonBlockRewards.mpr ⟨hp, by simpa using hpreward⟩
        exact Or.inr (hgreedy.ready pre' tx post hrest p hpother hspends)
    · exact hgreedy.best pre' tx post hrest other hother (hsplit hready)

/-- A coinbase transaction, a child of high priority, its parent of low priority, and another one. -/
def sampleTransactions : List Transaction :=
  [{ transactionIdString := "aa11", inputs := [⟨[0xcc, 0x33]⟩, ⟨[0xcc, 0x33]⟩], priorityFee := 100,
     computedIndexingHash := [1], index := 0 },
   { transactionIdString := "bb22", inputs := [⟨[0xff]⟩], priorityFee := 5,
     computedIndexingHash := [2], index := 0 },
   { transactionIdString := "cc33", inputs := [⟨[0xee]⟩], priorityFee := 1,
     computedIndexingHash := [3], index := 0 },
   { transactionIdString := "dd44", inputs := [⟨[]⟩], priorityFee := 0,
     computedIndexingHash := [4], index := 0 }]

theorem sortTransactions_canonical_sample :
    (∃ order, sortTransactions (scanQueue _ _ _) sampleTransactions = .ok (setIndexes order) ∧
      order.Perm sampleTransactions ∧
      (∀ tx ∈ order, isReward tx = true → order.head? = some tx) ∧
      ∀ pre tx post, order = pre ++ tx :: post → isReward tx = false →
        (∀ p ∈ sampleTransactions, Spends tx p → p ∈ pre) ∧
        ∀ other ∈ post, (∀ p ∈ sampleTransactions, Spends other p → p ∈ pre) →
          Precedes (nonBlockRewards sampleTransactions) tx other) ∧
      ∀ txs', txs'.Perm sampleTransactions →
        sortTransactions (scanQueue _ _ _) txs' =
          sortTransactions (scanQueue _ _ _) sampleTransactions :=
  sortTransactions_canonical lawful_scanQueue sampleTransactions (by decide +kernel)
    (by decide +kernel) (by decide +kernel)
    (acyclic_of_rank (fun tx => if tx.transactionIdString = "aa11" then 1 else 0)
      (by decide +kernel))

example : (sortTransactions (scanQueue _ _ _) sampleTransactions).toOption.map
    (·.map (·.transactionIdString)) = some ["dd44", "cc33", "aa11", "bb22"] := by
  decide +kernel

end OpnetNode.TransactionSorter
