import OpnetNode.Mempool.MempoolEviction

/-!
# What is evicted

The ids that the searches collect are those of the evicted transactions (`below_of_evicted`,
`exists_evicted_of_below`). Ids being unique, the deletion removes these transactions and no others.
-/

namespace OpnetNode.Mempool

open MempoolRepository SharedSearch

/-- A stored transaction other than `transaction` that spends one of its outpoints. -/
def Conflicts (transaction : SpendingTransaction) (mempool : Collection SpendingTransaction)
    (d : SpendingTransaction) : Prop :=
  d ∈ mempool ∧ d.id ≠ transaction.id ∧ ∃ input ∈ transaction.inputs, input ∈ d.inputs

def SpendsOutputOf (d e : SpendingTransaction) : Prop :=
  ∃ input ∈ d.inputs, input.transactionId = e.id

/-- The conflicts and all that descends from them. -/
inductive Evicted (transaction : SpendingTransaction) (mempool : Collection SpendingTransaction) :
    SpendingTransaction → Prop where
  | conflict {d} (h : Conflicts transaction mempool d) : Evicted transaction mempool d
  | descendant {d e} (hd : d ∈ mempool) (hspends : SpendsOutputOf d e)
      (he : Evicted transaction mempool e) : Evicted transaction mempool d

variable {transaction : SpendingTransaction} {mempool : Collection SpendingTransaction}

theorem mem_findConflictingTransactions {d : SpendingTransaction} :
    d ∈ findConflictingTransactions transaction mempool ↔ Conflicts transaction mempool d := by
  simp only [findConflictingTransactions, Conflicts, List.mem_filter, Bool.and_eq_true,
    List.any_eq_true, List.contains_iff_mem, decide_eq_true_eq]
  constructor
  · rintro ⟨hd, hinput, hid⟩
    exact ⟨hd, hid, hinput⟩
  · rintro ⟨hd, hid, hinput⟩
    exact ⟨hd, hinput, hid⟩

theorem mem_findDirectDescendants {d e : SpendingTransaction} :
    d ∈ findDirectDescendants e.id mempool ↔ d ∈ mempool ∧ SpendsOutputOf d e := by
  simp [findDirectDescendants, SpendsOutputOf]

theorem Evicted.mem {d : SpendingTransaction} (h : Evicted transaction mempool d) : d ∈ mempool := by
  cases h with
  | conflict h => exact h.1
  | descendant hd => exact hd

/-- The ids of the direct descendants, as `getAllDescendants` follows them. -/
abbrev descendantIds (mempool : Collection SpendingTransaction) (id : String) : List String :=
  (findDirectDescendants id mempool).map SpendingTransaction.id

abbrev conflictIds (transaction : SpendingTransaction) (mempool : Collection SpendingTransaction) :
    List String :=
  (findConflictingTransactions transaction mempool).map SpendingTransaction.id

theorem below_of_evicted {d : SpendingTransaction} (h : Evicted transaction mempool d) :
    Below (descendantIds mempool) (conflictIds transaction mempool) d.id := by
  induction h with
  | conflict h =>
    exact ⟨_, List.mem_map_of_mem (mem_findConflictingTransactions.mpr h),
      Relation.ReflTransGen.refl⟩
  | descendant hd hspends _ ih =>
    obtain ⟨x, hx, hbelow⟩ := ih
    have hnext := List.mem_map_of_mem (f := SpendingTransaction.id)
      (mem_findDirectDescendants.mpr ⟨hd, hspends⟩)
    exact ⟨x, hx, hbelow.tail hnext⟩

theorem exists_evicted_of_below {id : String}
    (h : Below (descendantIds mempool) (conflictIds transaction mempool) id) :
    ∃ e, e.id = id ∧ Evicted transaction mempool e := by
  obtain ⟨x, hx, hbelow⟩ := h
  induction hbelow with
  | refl =>
    obtain ⟨d, hd, rfl⟩ := List.mem_map.mp hx
    exact ⟨d, rfl, .conflict (mem_findConflictingTransactions.mp hd)⟩
  | tail _ hnext ih =>
    obtain ⟨e, rfl, he⟩ := ih
    obtain ⟨d, hd, rfl⟩ := List.mem_map.mp hnext
    obtain ⟨hd, hspends⟩ := mem_findDirectDescendants.mp hd
    exact ⟨d, rfl, .descendant hd hspends he⟩

theorem not_evicted_of_isEmpty (h : (findConflictingTransactions transaction mempool).isEmpty)
    (d : SpendingTransaction) : ¬ Evicted transaction mempool d := by
  rw [List.isEmpty_iff] at h
  intro hd
  induction hd with
  | conflict hconflict =>
    rw [← mem_findConflictingTransactions, h] at hconflict
    cases hconflict
  | descendant _ _ _ ih => exact ih

theorem cleanupEvictedTransactions_spec (transaction : SpendingTransaction)
    (c : MempoolTransactions) {fuel : ℕ} (hfuel : c.docs.length < fuel) :
    ∃ c', cleanupEvictedTransactions fuel transaction c = some c' ∧
      ∀ d, d ∈ c'.docs ↔ d ∈ c.docs ∧ ¬ Evicted transaction c.docs d := by
  unfold cleanupEvictedTransactions
  dsimp only
  split
  · rename_i hempty
    refine ⟨c, rfl, fun d => ?_⟩
    have hnot := not_evicted_of_isEmpty hempty d
    exact ⟨fun hd => ⟨hd, hnot⟩, fun h => h.1⟩
  · have hnodes : ∀ a ∈ c.docs.map SpendingTransaction.id, ∀ b ∈ descendantIds c.docs a,
        b ∈ c.docs.map SpendingTransaction.id := by
      intro a _ b hb
      exact (List.filter_sublist.map SpendingTransaction.id).subset hb
    have hroots : ∀ x ∈ conflictIds transaction c.docs, x ∈ c.docs.map SpendingTransaction.id := by
      intro x hx
      exact (List.filter_sublist.map SpendingTransaction.id).subset hx
    obtain ⟨r, hr⟩ := exists_visitEach_collect hnodes hroots (by simpa using hfuel)
    have hcollected := mem_iff_below hr
    refine ⟨c.deleteMany fun tx => r.1.contains tx.id, by rw [getAllDescendants, hr]; rfl, ?_⟩
    intro d
    show d ∈ c.docs.deleteMany _ ↔ _
    rw [Collection.mem_deleteMany]
    apply and_congr_right
    intro hd
    rw [← Bool.not_eq_true, List.contains_iff_mem, hcollected d.id]
    apply not_congr
    constructor
    · intro hbelow
      obtain ⟨e, hid, he⟩ := exists_evicted_of_below hbelow
      rwa [← List.inj_on_of_nodup_map c.nodup he.mem hd hid]
    · exact below_of_evicted

theorem mem_storeTransaction (transaction : SpendingTransaction) (c : MempoolTransactions) :
    transaction ∈ (storeTransaction transaction c).docs := by
  have hlookup : (storeTransaction transaction c).lookup transaction.id = some transaction := by
    rw [storeTransaction, IndexedCollection.lookup_upsert, if_pos rfl]
    cases hfound : c.lookup transaction.id with
    | none => rfl
    | some d =>
      have hid := (IndexedCollection.mem_docs_of_lookup hfound).2
      simp [hid]
  exact (IndexedCollection.mem_docs_of_lookup hlookup).1

/-- **A stored transaction evicts its conflicts with all their descendants, and nothing else.** -/
theorem cleanupEvictedTransactions_exact (c₀ : MempoolTransactions) (transaction : SpendingTransaction)
    (fuel : ℕ) (hfuel : (storeTransaction transaction c₀).docs.length < fuel)
    (hspends : ∀ d, Evicted transaction (storeTransaction transaction c₀).docs d →
      ¬ SpendsOutputOf transaction d) :
    ∃ c, cleanupEvictedTransactions fuel transaction (storeTransaction transaction c₀) = some c ∧
      (∀ d, d ∈ c.docs ↔ d ∈ (storeTransaction transaction c₀).docs ∧
        ¬ Evicted transaction (storeTransaction transaction c₀).docs d) ∧
      transaction ∈ c.docs ∧
      (∀ d, ¬ Conflicts transaction c.docs d) ∧
      ∀ d ∈ c.docs, ∀ e ∈ (storeTransaction transaction c₀).docs, e ∉ c.docs →
        ¬ SpendsOutputOf d e := by
  have hstored := mem_storeTransaction transaction c₀
  generalize storeTransaction transaction c₀ = stored at *
  obtain ⟨c, hc, hmem⟩ := cleanupEvictedTransactions_spec transaction stored hfuel
  refine ⟨c, hc, hmem, ?_, ?_, ?_⟩
  · rw [hmem]
    refine ⟨hstored, ?_⟩
    intro hevicted
    cases hevicted with
    | conflict h => exact h.2.1 rfl
    | descendant _ hspent he => exact hspends _ he hspent
  · intro d hconflict
    obtain ⟨hd, hid, hinput⟩ := hconflict
    obtain ⟨hd, hnot⟩ := (hmem d).mp hd
    exact hnot (.conflict ⟨hd, hid, hinput⟩)
  · intro d hd e he hdeleted hspent
    obtain ⟨hd, hnot⟩ := (hmem d).mp hd
    have hevicted : Evicted transaction stored.docs e := by
      by_contra hkept
      exact hdeleted ((hmem e).mpr ⟨he, hkept⟩)
    exact hnot (.descendant hd hspent hevicted)

/-- `a` spends the outpoint that `t` spends; `b` and `c` descend from `a` and from each other. -/
def cyclicMempool : MempoolTransactions where
  docs := [⟨"a", [⟨"x", 0⟩]⟩, ⟨"b", [⟨"a", 0⟩, ⟨"c", 0⟩]⟩, ⟨"c", [⟨"b", 1⟩]⟩, ⟨"d", [⟨"x", 1⟩]⟩]
  nodup := by decide

theorem cleanupEvictedTransactions_cyclic :
    (cleanupEvictedTransactions 6 ⟨"t", [⟨"x", 0⟩]⟩
        (storeTransaction ⟨"t", [⟨"x", 0⟩]⟩ cyclicMempool)).map IndexedCollection.docs =
      some [⟨"d", [⟨"x", 1⟩]⟩, ⟨"t", [⟨"x", 0⟩]⟩] ∧
    ∃ c, cleanupEvictedTransactions 6 ⟨"t", [⟨"x", 0⟩]⟩
        (storeTransaction ⟨"t", [⟨"x", 0⟩]⟩ cyclicMempool) = some c ∧
      ∀ d, ¬ Conflicts ⟨"t", [⟨"x", 0⟩]⟩ c.docs d := by
  refine ⟨by decide +kernel, ?_⟩
  obtain ⟨c, hc, -, -, hconflicts, -⟩ :=
    cleanupEvictedTransactions_exact cyclicMempool ⟨"t", [⟨"x", 0⟩]⟩ 6 (by decide +kernel) (by
      rintro d hevicted ⟨input, hinput, hid⟩
      rw [List.mem_singleton] at hinput
      rw [hinput] at hid
      have hnone : ∀ e ∈ (storeTransaction ⟨"t", [⟨"x", 0⟩]⟩ cyclicMempool).docs, "x" ≠ e.id := by
        decide +kernel
      exact hnone d hevicted.mem hid)
  exact ⟨c, hc, hconflicts⟩

end OpnetNode.Mempool
