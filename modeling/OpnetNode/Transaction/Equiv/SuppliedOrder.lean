import OpnetNode.Transaction.Equiv.DependencyGraph
import OpnetNode.Transition

/-!
# A supplied order against the sorter's own

The ids of a sorted block are a possible order of the same transactions, parsed again. Sorting them
by these ids gives the same transactions in the same order; but only `sortTransactions` gives them
their indexes, and a transaction that is just parsed has index 0.

* `mem_of_sortTransactions`: what comes out of the sorter went in, for any graph and any order.
* `sortTransactionsByOrder_eq`: the result of sorting by the ids.
* `orderTransactions_agree_iff`: when the two agree on the indexes.
-/

namespace OpnetNode.TransactionSorter

open Proc PriorityQueue

/-! ### What comes out of the sorter -/

variable {N : List Transaction} {graph : DependencyGraph}
  {Q : PriorityQueue PriorityCache String Transaction}

def GraphWithin (N : List Transaction) (graph : DependencyGraph) : Prop :=
  ∀ id tx, graph.transactionsById.get id = some tx → tx ∈ N

theorem byId_addEdge (childId parentId : String) (graph : DependencyGraph) :
    (addEdge childId graph parentId).transactionsById = graph.transactionsById := by
  unfold addEdge
  split
  · rfl
  split
  · rfl
  · split
    · rfl
    · rfl

theorem byId_addInput (childId : String) (graph : DependencyGraph) (input : TransactionInput) :
    (addInput childId graph input).transactionsById = graph.transactionsById := by
  unfold addInput
  split
  · rfl
  · exact byId_addEdge _ _ _

theorem byId_buildDependencyGraph (N : List Transaction) :
    (buildDependencyGraph N).transactionsById = byId N := by
  have hinputs : ∀ (childId : String) (inputs : List TransactionInput) (graph : DependencyGraph),
      (inputs.foldl (addInput childId) graph).transactionsById = graph.transactionsById := by
    intro childId inputs
    induction inputs with
    | nil => exact fun _ => rfl
    | cons input inputs ih =>
      intro graph
      rw [List.foldl_cons, ih, byId_addInput]
  have htxs : ∀ (txs : List Transaction) (graph : DependencyGraph),
      (txs.foldl (fun graph tx => tx.inputs.foldl (addInput tx.transactionIdString) graph)
        graph).transactionsById = graph.transactionsById := by
    intro txs
    induction txs with
    | nil => exact fun _ => rfl
    | cons tx txs ih =>
      intro graph
      rw [List.foldl_cons, ih, hinputs]
  unfold buildDependencyGraph
  rw [htxs]
  rfl

theorem graphWithin_buildDependencyGraph (hids : (ids N).Nodup) :
    GraphWithin N (buildDependencyGraph N) := by
  intro id tx htx
  rw [byId_buildDependencyGraph] at htx
  exact ((get_byId hids).mp htx).1

theorem returns_getTx (hgraph : GraphWithin N graph) (txId : String) :
    Returns (· ∈ N) (getTx graph txId) := by
  unfold getTx
  split
  · exact returns_throw _
  · rename_i tx htx
    exact returns_pure (hgraph txId tx htx)

section Traversal

variable (hQ : Q.Conserves) (hgraph : GraphWithin N graph)

def TraversalWithin (N : List Transaction) (t : Traversal Q) : Prop :=
  (∀ tx ∈ t.resultTxs, tx ∈ N) ∧ hQ.Holds (· ∈ N) t.availableTxs

include hgraph

theorem returns_enqueueRoot {availableTxs : Q.Queue} (h : hQ.Holds (· ∈ N) availableTxs)
    (entry : String × ℤ) : Returns (hQ.Holds (· ∈ N)) (enqueueRoot graph availableTxs entry) := by
  refine returns_ite (fun _ => ?_) (fun _ => returns_pure h)
  exact returns_bind (returns_getTx hgraph entry.1) fun tx htx => hQ.enqueue _ htx h

theorem returns_releaseChild {t : Traversal Q} (h : TraversalWithin hQ N t) (childId : String) :
    Returns (TraversalWithin hQ N) (releaseChild graph t childId) := by
  refine returns_ite (fun _ => ?_) (fun _ => returns_pure ⟨h.1, h.2⟩)
  refine returns_bind (returns_getTx hgraph childId) fun child hchild => ?_
  exact returns_bind (hQ.enqueue _ hchild h.2) fun availableTxs hq => returns_pure ⟨h.1, hq⟩

theorem returns_emit {t : Traversal Q} (h : TraversalWithin hQ N t) {nextTx : Transaction}
    (hnext : nextTx ∈ N) : Returns (TraversalWithin hQ N) (emit graph t nextTx) := by
  refine returns_foldEach (fun t childId _ ht => returns_releaseChild hQ hgraph ht childId) ?_
  refine ⟨?_, h.2⟩
  intro tx htx
  rcases List.mem_append.mp htx with hold | hnew
  · exact h.1 tx hold
  · rwa [List.mem_singleton.mp hnew]

theorem returns_emitAll (fuel : ℕ) {t : Traversal Q} (h : TraversalWithin hQ N t) :
    Returns (TraversalWithin hQ N) (emitAll graph fuel t) := by
  induction fuel generalizing t with
  | zero => exact returns_pure h
  | succ fuel ih =>
    refine returns_ite (fun _ => returns_pure h) (fun _ => ?_)
    refine returns_bind (hQ.dequeue _ h.2) fun dequeued hdequeued => ?_
    split
    · exact returns_pure ⟨h.1, hdequeued.2⟩
    · rename_i nextTx hnext
      have hrest : TraversalWithin hQ N { t with availableTxs := dequeued.2 } :=
        ⟨h.1, hdequeued.2⟩
      exact returns_bind (returns_emit hQ hgraph hrest (hdequeued.1 nextTx hnext))
        fun t ht => ih ht

omit hgraph in
theorem returns_insertByPriority {tx : Transaction} (htx : tx ∈ N) {l : List Transaction}
    (hl : ∀ other ∈ l, other ∈ N) :
    Returns (fun l' => ∀ other ∈ l', other ∈ N) (insertByPriority graph tx l) := by
  induction l with
  | nil => exact returns_pure (List.forall_mem_singleton.mpr htx)
  | cons other rest ih =>
    have hrest := List.forall_mem_cons.mp hl
    refine returns_bind_any fun c => returns_ite (fun _ => ?_) (fun _ => ?_)
    · exact returns_pure (List.forall_mem_cons.mpr ⟨htx, hl⟩)
    · exact returns_bind (ih hrest.2) fun rest' hrest' =>
        returns_pure (List.forall_mem_cons.mpr ⟨hrest.1, hrest'⟩)

theorem returns_appendRemaining {resultTxs : List Transaction} (h : ∀ tx ∈ resultTxs, tx ∈ N) :
    Returns (fun txs => ∀ tx ∈ txs, tx ∈ N) (appendRemaining graph resultTxs) := by
  refine returns_ite (fun _ => ?_) (fun _ => returns_pure h)
  have hvals : ∀ tx ∈ graph.transactionsById.vals, tx ∈ N := by
    intro tx htx
    obtain ⟨⟨id, tx'⟩, hentry, rfl⟩ := List.mem_map.mp htx
    exact hgraph id tx' ((JsMap.mem_entries_iff _).mp hentry)
  have hsorted : Returns (fun txs : List Transaction => ∀ tx ∈ txs, tx ∈ N)
      (foldEach (fun sorted tx => insertByPriority graph tx sorted) []
        (graph.transactionsById.vals.filter fun txA =>
          resultTxs.all fun txB => txA.transactionIdString ≠ txB.transactionIdString)) := by
    refine returns_foldEach ?_ (fun tx htx => absurd htx List.not_mem_nil)
    intro sorted tx htx hsorted
    exact returns_insertByPriority (hvals tx (List.mem_of_mem_filter htx)) hsorted
  refine returns_bind hsorted fun sorted hsorted => returns_pure ?_
  intro tx htx
  rcases List.mem_append.mp htx with hresult | hrest
  · exact h tx hresult
  · exact hsorted tx hrest

end Traversal

theorem returns_sortByFeeWithDependencies (hQ : Q.Conserves) (hids : (ids N).Nodup) :
    Returns (fun txs => ∀ tx ∈ txs, tx ∈ N) (sortByFeeWithDependencies Q N) := by
  have hgraph := graphWithin_buildDependencyGraph hids
  have hroots := returns_foldEach (l := (buildDependencyGraph N).inDegree.entries)
    (fun q entry _ hq => returns_enqueueRoot hQ hgraph hq entry) (hQ.holds_empty (· ∈ N))
  refine returns_bind hroots fun availableTxs hq => ?_
  refine returns_bind (returns_emitAll hQ hgraph _ ⟨?_, hq⟩) fun t ht => ?_
  · exact fun tx htx => absurd htx List.not_mem_nil
  · exact returns_appendRemaining hgraph ht.1

theorem mem_of_sortTransactions (hQ : Q.Conserves) {txs sorted : List Transaction}
    (hids : (ids txs).Nodup) (h : sortTransactions Q txs = .ok sorted) :
    ∃ order, sorted = setIndexes order ∧ order.length = txs.length ∧ ∀ tx ∈ order, tx ∈ txs := by
  have hsublist : (nonBlockRewards txs).Sublist txs := List.filter_sublist
  obtain ⟨sortedNonRewards, hrun, h⟩ := exceptBind_eq_ok h
  have hmem : ∀ tx ∈ sortedNonRewards, tx ∈ nonBlockRewards txs :=
    returns_sortByFeeWithDependencies hQ (hids.sublist (hsublist.map _)) .empty sortedNonRewards _
      (Prod.ext hrun rfl)
  dsimp only at h
  split at h
  · cases h
  · rename_i hlength
    refine ⟨blockRewards txs ++ sortedNonRewards, (Except.ok.inj h).symm, not_not.mp hlength, ?_⟩
    intro tx htx
    rcases List.mem_append.mp htx with hreward | hother
    · exact List.mem_of_mem_filter hreward
    · exact hsublist.subset (hmem tx hother)

/-! ### The two orders -/

def parsedAgain (tx : Transaction) : Transaction := { tx with index := 0 }

theorem find?_parsedAgain {txs txs' : List Transaction} (hids : (ids txs).Nodup)
    (hperm : txs'.Perm (txs.map parsedAgain)) {tx : Transaction} (htx : tx ∈ txs) :
    (txs'.find? fun t => t.transactionIdString = tx.transactionIdString)
      = some (parsedAgain tx) := by
  have hmem : parsedAgain tx ∈ txs' := hperm.mem_iff.mpr (List.mem_map_of_mem htx)
  cases hfind : txs'.find? fun t => t.transactionIdString = tx.transactionIdString with
  | none =>
    have hnone := List.find?_eq_none.mp hfind (parsedAgain tx) hmem
    simp [parsedAgain] at hnone
  | some found =>
    obtain ⟨original, horiginal, rfl⟩ :=
      List.mem_map.mp (hperm.mem_iff.mp (List.mem_of_find?_eq_some hfind))
    have hfound := List.find?_some hfind
    have hid : original.transactionIdString = tx.transactionIdString := of_decide_eq_true hfound
    rw [eq_of_id_eq hids horiginal htx hid]

theorem mapM_eq_ok {α β ε : Type} {f : α → Except ε β} {g : α → β} {l : List α}
    (h : ∀ a ∈ l, f a = .ok (g a)) : l.mapM f = .ok (l.map g) := by
  induction l with
  | nil => rfl
  | cons a l ih =>
    rw [List.mapM_cons, h a List.mem_cons_self, ih fun b hb => h b (List.mem_cons_of_mem a hb)]
    rfl

theorem sortTransactionsByOrder_eq {txs txs' order : List Transaction} (hids : (ids txs).Nodup)
    (hperm : txs'.Perm (txs.map parsedAgain)) (hlength : order.length = txs.length)
    (horder : ∀ tx ∈ order, tx ∈ txs) :
    sortTransactionsByOrder (ids order) txs' = .ok (order.map parsedAgain) := by
  have hlengths : (ids order).length = txs'.length := by
    unfold ids
    rw [hperm.length_eq, List.length_map, List.length_map, hlength]
  unfold sortTransactionsByOrder
  rw [if_neg (not_not.mpr hlengths)]
  unfold ids
  rw [List.mapM_map]
  apply mapM_eq_ok
  intro tx htx
  rw [Function.comp_apply, find?_parsedAgain hids hperm (horder tx htx)]

theorem map_setIndexes {β : Type} {f : Transaction → β}
    (hf : ∀ tx index, f { tx with index := index } = f tx) (order : List Transaction) :
    (setIndexes order).map f = order.map f := by
  apply List.ext_getElem?
  intro i
  unfold setIndexes
  rw [List.getElem?_map, List.getElem?_map, List.getElem?_mapIdx]
  cases order[i]? with
  | none => rfl
  | some tx => simp [hf]

/-- Only the first transaction has the index of one that is parsed again. -/
theorem map_parsedAgain_eq_iff (order : List Transaction) :
    order.map parsedAgain = setIndexes order ↔ order.length ≤ 1 := by
  constructor
  · intro h
    by_contra hlength
    have hlt : 1 < order.length := by omega
    have hsecond : (order.map parsedAgain)[1]? = (setIndexes order)[1]? := by rw [h]
    unfold setIndexes at hsecond
    rw [List.getElem?_map, List.getElem?_mapIdx, List.getElem?_eq_getElem hlt] at hsecond
    have hindex : 0 = 1 := congrArg Transaction.index (Option.some.inj hsecond)
    omega
  · intro hlength
    rcases order with _ | ⟨tx, _ | ⟨other, rest⟩⟩
    · rfl
    · rfl
    · simp at hlength

/-- **The two orders agree on everything but the index.** For a block that the sorter sorts, sorting
its transactions, parsed again and in any order, by the ids of the sorted ones gives the sorted ones
without their indexes; so that the two agree exactly for blocks of at most one transaction. -/
theorem orderTransactions_agree_iff {Q : PriorityQueue PriorityCache String Transaction}
    (hQ : Q.Conserves) (txs : List Transaction) (hids : (ids txs).Nodup) (sorted : List Transaction)
    (hsorted : orderTransactions Q none txs = .ok sorted) (txs' : List Transaction)
    (hperm : txs'.Perm (txs.map parsedAgain)) :
    orderTransactions Q (some (ids sorted)) txs' = .ok (sorted.map parsedAgain) ∧
      (orderTransactions Q (some (ids sorted)) txs' = .ok sorted ↔ txs.length ≤ 1) := by
  obtain ⟨order, rfl, hlength, hmem⟩ := mem_of_sortTransactions hQ hids hsorted
  have hresult : orderTransactions Q (some (ids (setIndexes order))) txs'
      = .ok (order.map parsedAgain) := by
    have hids' : ids (setIndexes order) = ids order := map_setIndexes (fun _ _ => rfl) order
    rw [hids']
    exact sortTransactionsByOrder_eq hids hperm hlength hmem
  constructor
  · rw [map_setIndexes (fun _ _ => rfl)]
    exact hresult
  · rw [hresult, Except.ok.injEq, map_parsedAgain_eq_iff, hlength]

/-! ### A block of two transactions -/

def coinbaseTransaction : Transaction where
  transactionIdString := toHex (List.replicate 32 0xaa)
  inputs := [⟨[]⟩]
  priorityFee := 0
  computedIndexingHash := List.replicate 32 1
  index := 0

def paymentTransaction : Transaction where
  transactionIdString := toHex (List.replicate 32 0xbb)
  inputs := [⟨List.replicate 32 0xcc⟩]
  priorityFee := 5
  computedIndexingHash := List.replicate 32 2
  index := 0

theorem orderTransactions_agree_coinbase :
    orderTransactions (scanQueue _ _ _) (some (ids [coinbaseTransaction])) [coinbaseTransaction]
      = .ok [coinbaseTransaction] := by
  have hsorted : orderTransactions (scanQueue _ _ _) none [coinbaseTransaction]
      = .ok [coinbaseTransaction] := by rfl
  exact ((orderTransactions_agree_iff conserves_scanQueue [coinbaseTransaction]
    (List.nodup_singleton _) [coinbaseTransaction] hsorted [coinbaseTransaction]
    (List.Perm.refl _)).2).mpr (Nat.le_refl 1)

/-- The second transaction has index 1 in one of the orders, and index 0 in the other. -/
theorem orderTransactions_disagree :
    orderTransactions (scanQueue _ _ _) none [coinbaseTransaction, paymentTransaction]
        = .ok [coinbaseTransaction, { paymentTransaction with index := 1 }] ∧
      orderTransactions (scanQueue _ _ _)
          (some (ids [coinbaseTransaction, { paymentTransaction with index := 1 }]))
          ([coinbaseTransaction, paymentTransaction].map parsedAgain)
        = .ok [coinbaseTransaction, paymentTransaction] ∧
      paymentTransaction.index ≠ 1 := by
  refine ⟨?_, ?_, ?_⟩
  · decide +kernel
  · decide +kernel
  · decide

end OpnetNode.TransactionSorter
