import Mathlib.Data.Int.ConditionallyCompleteOrder
import Mathlib.Order.ConditionallyCompleteLattice.Finset
import OpnetNode.Epoch.Equiv.BestSubmission
import OpnetNode.Transaction.Equiv.DependencyGraph

/-!
# The comparator of the sorter

`effectivePriority` is the highest priority of a transaction and its descendants.  Without cycles the
recursion of the sorter returns it, from any cache whose entries are right, and leaves such a cache
(`computeEffectivePriority_eq`).  So the comparator decides one order of the transactions,
`Precedes`, whatever has been cached (`decidesOrder_compareByPriority`).
-/

namespace OpnetNode.TransactionSorter

open Greedy Proc PriorityQueue

variable {N : List Transaction} {graph : DependencyGraph} {tx : Transaction}

def Descends (N : List Transaction) : Transaction → Transaction → Prop :=
  Relation.ReflTransGen (ParentIn parentOf N)

def reachablePriorities (N : List Transaction) (tx : Transaction) : Set ℤ :=
  {priority | ∃ d, Descends N tx d ∧ getTransactionPriority d = priority}

/-- The highest priority of a transaction and its descendants. -/
noncomputable def effectivePriority (N : List Transaction) (tx : Transaction) : ℤ :=
  sSup (reachablePriorities N tx)

theorem finite_reachablePriorities (N : List Transaction) (tx : Transaction) :
    (reachablePriorities N tx).Finite := by
  have hfinite : {d | d = tx ∨ d ∈ N}.Finite :=
    (Set.finite_singleton tx).union N.finite_toSet
  refine (hfinite.image getTransactionPriority).subset ?_
  rintro _ ⟨d, hd, rfl⟩
  refine ⟨d, ?_, rfl⟩
  rcases Relation.ReflTransGen.cases_tail hd with heq | ⟨p, -, hp⟩
  · exact Or.inl heq
  · exact Or.inr hp.2.1

theorem isGreatest_effectivePriority (N : List Transaction) (tx : Transaction) :
    IsGreatest (reachablePriorities N tx) (effectivePriority N tx) := by
  have hfinite := finite_reachablePriorities N tx
  have hne : (reachablePriorities N tx).Nonempty :=
    ⟨getTransactionPriority tx, tx, Relation.ReflTransGen.refl, rfl⟩
  exact ⟨hne.csSup_mem hfinite, fun x hx => le_csSup hfinite.bddAbove hx⟩

theorem effectivePriority_congr {N' : List Transaction} (h : ∀ a, a ∈ N ↔ a ∈ N') (tx : Transaction) :
    effectivePriority N tx = effectivePriority N' tx := by
  unfold effectivePriority reachablePriorities Descends
  rw [parentIn_congr h]

/-- A bound for a transaction and for its children, which one of them attains, is the effective
priority. -/
theorem effectivePriority_eq {best : ℤ} (hown : getTransactionPriority tx ≤ best)
    (hchildren : ∀ c, ParentIn parentOf N tx c → effectivePriority N c ≤ best)
    (hattained : best = getTransactionPriority tx ∨
      ∃ c, ParentIn parentOf N tx c ∧ best = effectivePriority N c) :
    effectivePriority N tx = best := by
  refine (isGreatest_effectivePriority N tx).unique ⟨?_, ?_⟩
  · rcases hattained with rfl | ⟨c, hc, rfl⟩
    · exact ⟨tx, Relation.ReflTransGen.refl, rfl⟩
    · obtain ⟨d, hd, hpriority⟩ := (isGreatest_effectivePriority N c).1
      exact ⟨d, Relation.ReflTransGen.head hc hd, hpriority⟩
  · rintro _ ⟨d, hd, rfl⟩
    rcases Relation.ReflTransGen.cases_head hd with rfl | ⟨c, hc, hcd⟩
    · exact hown
    · exact ((isGreatest_effectivePriority N c).2 ⟨d, hcd, rfl⟩).trans (hchildren c hc)

/-! ### The recursion -/

/-- Every cached priority is the effective priority. -/
def CacheOk (N : List Transaction) (cache : PriorityCache) : Prop :=
  ∀ tx ∈ N, ∀ priority, cache.get tx.transactionIdString = some priority →
    priority = effectivePriority N tx

theorem cacheOk_empty (N : List Transaction) : CacheOk N .empty :=
  fun _ _ _ h => by cases h

theorem CacheOk.set {cache : PriorityCache} (h : CacheOk N cache) (hids : (ids N).Nodup)
    (htx : tx ∈ N) : CacheOk N (cache.set tx.transactionIdString (effectivePriority N tx)) := by
  intro tx' htx' priority hget
  rw [JsMap.get_set] at hget
  split_ifs at hget with hid
  · rw [eq_of_id_eq hids htx' htx hid]
    exact (Option.some.inj hget).symm
  · exact h tx' htx' priority hget

theorem getTx_eq (hgraph : GraphOf N graph) (htx : tx ∈ N) :
    getTx graph tx.transactionIdString = pure tx := by
  unfold getTx
  rw [(hgraph.byId _ tx).mpr ⟨htx, rfl⟩]

variable {c : Transaction}

theorem ne_of_parentIn (hacyclic : Acyclic parentOf N) {p : Transaction}
    (h : ParentIn parentOf N p c) : p ≠ c := by
  rintro rfl
  exact hacyclic p h.1 (Relation.TransGen.single h)

theorem foldEach_children (hids : (ids N).Nodup) {f : ℤ → String → SortM ℤ}
    (hf : ∀ best c cache, ParentIn parentOf N tx c → CacheOk N cache →
      ∃ cache', f best c.transactionIdString cache =
        (.ok (if effectivePriority N c > best then effectivePriority N c else best), cache') ∧
        CacheOk N cache')
    (children : List String)
    (hchildren : ∀ id ∈ children, ∃ c, c.transactionIdString = id ∧ ParentIn parentOf N tx c)
    (best : ℤ) (cache : PriorityCache) (hcache : CacheOk N cache) :
    ∃ best' cache', foldEach f best children cache = (.ok best', cache') ∧ CacheOk N cache' ∧
      best ≤ best' ∧
      (∀ c, ParentIn parentOf N tx c → c.transactionIdString ∈ children →
        effectivePriority N c ≤ best') ∧
      (best' = best ∨ ∃ c, ParentIn parentOf N tx c ∧ best' = effectivePriority N c) := by
  induction children generalizing best cache with
  | nil =>
    exact ⟨best, cache, rfl, hcache, le_refl best, fun _ _ h => absurd h List.not_mem_nil, Or.inl rfl⟩
  | cons id children ih =>
    obtain ⟨c, rfl, hc⟩ := hchildren id List.mem_cons_self
    obtain ⟨cache₁, hrun, hcache₁⟩ := hf best c cache hc hcache
    obtain ⟨best', cache', hrun', hcache', hle, hall, hattained⟩ :=
      ih (fun id hid => hchildren id (List.mem_cons_of_mem _ hid))
        (if effectivePriority N c > best then effectivePriority N c else best) cache₁ hcache₁
    -- the best so far only grows, and is at least the priority of this child
    have hbest : best ≤ if effectivePriority N c > best then effectivePriority N c else best := by
      split_ifs <;> omega
    have hhead : effectivePriority N c ≤
        if effectivePriority N c > best then effectivePriority N c else best := by
      split_ifs <;> omega
    refine ⟨best', cache', ?_, hcache', hbest.trans hle, fun c' hc' hmem => ?_, ?_⟩
    · exact (bind_of_ok hrun).trans hrun'
    · rcases List.mem_cons.mp hmem with hid | hmem
      · rw [eq_of_id_eq hids hc'.2.1 hc.2.1 hid]
        exact hhead.trans hle
      · exact hall c' hc' hmem
    · rcases hattained with rfl | hattained
      · split_ifs
        · exact Or.inr ⟨c, hc, rfl⟩
        · exact Or.inl rfl
      · exact Or.inr hattained

/-- A call of the recursion: a known priority, that of a transaction being visited, or the best of
its own and its children's. -/
theorem computeEffectivePriority_succ (fuel : ℕ) (visiting : List String) (tx : Transaction)
    (cache : PriorityCache) :
    computeEffectivePriority graph (fuel + 1) visiting tx cache =
      (match cache.get tx.transactionIdString with
        | some cachedPriority => pure cachedPriority
        | none =>
          if tx.transactionIdString ∈ visiting then pure (getTransactionPriority tx)
          else do
            let bestPriority ← foldEach
              (fun bestPriority childId => do
                let child ← getTx graph childId
                let childPriority ←
                  computeEffectivePriority graph fuel (tx.transactionIdString :: visiting) child
                return if childPriority > bestPriority then childPriority else bestPriority)
              (getTransactionPriority tx)
              ((graph.adjacency.get tx.transactionIdString).getD [])
            modify (·.set tx.transactionIdString bestPriority)
            return bestPriority : SortM ℤ) cache := rfl

theorem computeEffectivePriority_eq (hids : (ids N).Nodup) (hacyclic : Acyclic parentOf N)
    (hgraph : GraphOf N graph) (fuel : ℕ) (visiting : List String) (tx : Transaction) (htx : tx ∈ N)
    (hnodup : visiting.Nodup)
    (hvisiting : ∀ id ∈ visiting, ∃ a ∈ N, a.transactionIdString = id ∧
      Relation.TransGen (ParentIn parentOf N) a tx)
    (hfuel : N.length + 1 ≤ fuel + visiting.length) (cache : PriorityCache)
    (hcache : CacheOk N cache) :
    ∃ cache', computeEffectivePriority graph fuel visiting tx cache =
      (.ok (effectivePriority N tx), cache') ∧ CacheOk N cache' := by
  induction fuel generalizing visiting tx cache with
  | zero =>
    -- The transactions being visited are distinct, so there are not more of them than transactions.
    have hsubset : visiting.Subperm (ids N) := by
      refine List.subperm_of_subset hnodup fun id hid => ?_
      obtain ⟨a, ha, rfl, -⟩ := hvisiting id hid
      exact mem_ids ha
    have hlength : visiting.length ≤ N.length := by
      have hle := hsubset.length_le
      rwa [ids, List.length_map] at hle
    omega
  | succ fuel ih =>
    rw [computeEffectivePriority_succ]
    rcases hget : cache.get tx.transactionIdString with _ | cachedPriority
    · have hnot : tx.transactionIdString ∉ visiting := by
        intro hmem
        obtain ⟨a, ha, hid, hancestor⟩ := hvisiting _ hmem
        rw [eq_of_id_eq hids ha htx hid] at hancestor
        exact hacyclic tx htx hancestor
      obtain ⟨children, hchildren, -, hmem⟩ := hgraph.children tx htx
      dsimp only
      rw [if_neg hnot, hchildren, Option.getD_some]
      have hloop := foldEach_children hids (f := fun bestPriority childId => do
          let child ← getTx graph childId
          let childPriority ←
            computeEffectivePriority graph fuel (tx.transactionIdString :: visiting) child
          return if childPriority > bestPriority then childPriority else bestPriority)
        (fun best c cache hc hcache => by
          obtain ⟨cache', hchild, hcache'⟩ := ih (tx.transactionIdString :: visiting) c hc.2.1
            (List.nodup_cons.mpr ⟨hnot, hnodup⟩)
            (List.forall_mem_cons.mpr ⟨⟨tx, htx, rfl, Relation.TransGen.single hc⟩, fun id hid => by
              obtain ⟨a, ha, heq, hancestor⟩ := hvisiting id hid
              exact ⟨a, ha, heq, hancestor.tail hc⟩⟩)
            (by rw [List.length_cons]; omega) cache hcache
          refine ⟨cache', ?_, hcache'⟩
          rw [getTx_eq hgraph hc.2.1, pure_bind]
          refine (bind_of_ok hchild).trans ?_
          rfl)
        children
        (fun id hid => by
          obtain ⟨c, hc, heq, hspends, -⟩ := (hmem id).mp hid
          exact ⟨c, heq, htx, hc, hspends⟩)
        (getTransactionPriority tx) cache hcache
      obtain ⟨best, cache₁, hrun₁, hcache₁, hown, hall, hattained⟩ := hloop
      have hbest : effectivePriority N tx = best := by
        refine effectivePriority_eq hown (fun c hc => hall c hc ?_) hattained
        exact (hmem _).mpr ⟨c, hc.2.1, rfl, hc.2.2, ne_of_parentIn hacyclic hc⟩
      refine ⟨cache₁.set tx.transactionIdString best, ?_, ?_⟩
      · refine (bind_of_ok hrun₁).trans ?_
        rw [hbest]
        rfl
      · rw [← hbest]
        exact hcache₁.set hids htx
    · exact ⟨cache, by rw [← hcache tx htx cachedPriority hget]; rfl, hcache⟩

/-! ### The order of the transactions -/

/-- `a` has the greater effective priority, else the greater priority, else the smaller hash. -/
def Precedes (N : List Transaction) (a b : Transaction) : Prop :=
  effectivePriority N a > effectivePriority N b ∨
    effectivePriority N a = effectivePriority N b ∧
      (getTransactionPriority a > getTransactionPriority b ∨
        getTransactionPriority a = getTransactionPriority b ∧ compareHashes a b < 0)

theorem compare_neg_iff (a b : Bytes) : compare a b < 0 ↔ EpochManager.compareBytes a b < 0 :=
  Int.sign_neg_iff

theorem compareHashes_swap (a b : Transaction) : compareHashes b a = -compareHashes a b := by
  unfold compareHashes compare
  rw [EpochManager.compareBytes_swap, Int.sign_neg]

variable {a b : Transaction}

theorem compareHashes_trans (hab : compareHashes a b < 0)
    (hbc : compareHashes b c < 0) : compareHashes a c < 0 := by
  unfold compareHashes at hab hbc ⊢
  rw [compare_neg_iff] at hab hbc ⊢
  exact EpochManager.compareBytes_trans hab hbc

theorem compareHashes_eq_zero :
    compareHashes a b = 0 ↔ a.computedIndexingHash = b.computedIndexingHash := by
  unfold compareHashes compare
  rw [Int.sign_eq_zero_iff_zero, EpochManager.compareBytes_eq_zero]

theorem compareHashes_negTrans (h : compareHashes a c < 0) :
    compareHashes a b < 0 ∨ compareHashes b c < 0 := by
  by_cases hab : compareHashes a b < 0
  · exact Or.inl hab
  · right
    by_cases hzero : compareHashes a b = 0
    · have hhash := compareHashes_eq_zero.mp hzero
      unfold compareHashes at h ⊢
      rwa [hhash] at h
    · have hba : compareHashes b a < 0 := by
        have hswap := compareHashes_swap a b
        omega
      exact compareHashes_trans hba h

theorem Precedes.asymm (h : Precedes N a b) : ¬ Precedes N b a := by
  have hswap := compareHashes_swap a b
  unfold Precedes at h ⊢
  omega

theorem precedes_negTrans (h : Precedes N a c) : Precedes N a b ∨ Precedes N b c := by
  have hhash : compareHashes a c < 0 → compareHashes a b < 0 ∨ compareHashes b c < 0 :=
    compareHashes_negTrans
  unfold Precedes at h ⊢
  omega

theorem precedes_total (h : a.computedIndexingHash ≠ b.computedIndexingHash) :
    Precedes N a b ∨ Precedes N b a := by
  have hswap := compareHashes_swap a b
  have hne : compareHashes a b ≠ 0 := fun hzero => h (compareHashes_eq_zero.mp hzero)
  unfold Precedes
  omega

theorem precedes_congr {N' : List Transaction} (h : ∀ a, a ∈ N ↔ a ∈ N') (a b : Transaction) :
    Precedes N a b ↔ Precedes N' a b := by
  unfold Precedes
  rw [effectivePriority_congr h a, effectivePriority_congr h b]

theorem decidesOrder_compareByPriority (hids : (ids N).Nodup) (hacyclic : Acyclic parentOf N)
    (hgraph : GraphOf N graph) :
    DecidesOrder (CacheOk N) (· ∈ N) (compareByPriority graph) (Precedes N) where
  returns a b cache ha hb hcache := by
    have hfuel : N.length + 1 ≤ graph.transactionsById.size + 1 + ([] : List String).length := by
      rw [hgraph.size, List.length_nil]
    obtain ⟨cache₁, hrun₁, hcache₁⟩ := computeEffectivePriority_eq hids hacyclic hgraph _ [] a ha
      List.nodup_nil (fun _ h => absurd h List.not_mem_nil) hfuel cache hcache
    obtain ⟨cache₂, hrun₂, hcache₂⟩ := computeEffectivePriority_eq hids hacyclic hgraph _ [] b hb
      List.nodup_nil (fun _ h => absurd h List.not_mem_nil) hfuel cache₁ hcache₁
    have hrun : compareByPriority graph a b cache =
        (if effectivePriority N a ≠ effectivePriority N b then
          (return if effectivePriority N a > effectivePriority N b then -1 else 1)
        else if getTransactionPriority a ≠ getTransactionPriority b then
          (return if getTransactionPriority a > getTransactionPriority b then -1 else 1)
        else return compareHashes a b : SortM ℤ) cache₂ := by
      refine (bind_of_ok hrun₁).trans ?_
      exact bind_of_ok hrun₂
    rw [hrun]
    have hswap := compareHashes_swap a b
    unfold Precedes
    by_cases heff : effectivePriority N a = effectivePriority N b
    · rw [if_neg (not_not.mpr heff)]
      by_cases hown : getTransactionPriority a = getTransactionPriority b
      · rw [if_neg (not_not.mpr hown)]
        exact ⟨compareHashes a b, cache₂, rfl, hcache₂, by omega, by omega⟩
      · rw [if_pos hown]
        refine ⟨_, cache₂, rfl, hcache₂, ?_, ?_⟩
        · split_ifs <;> omega
        · split_ifs <;> omega
    · rw [if_pos heff]
      refine ⟨_, cache₂, rfl, hcache₂, ?_, ?_⟩
      · split_ifs <;> omega
      · split_ifs <;> omega
  asymm _ _ _ _ h := h.asymm
  negTrans _ _ _ _ _ _ h := precedes_negTrans h

end OpnetNode.TransactionSorter
