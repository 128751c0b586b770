import OpnetNode.Transaction.Equiv.EffectivePriority

/-!
# The traversal of the dependency graph

Before and after each turn of the loop the queue holds the transactions that are ready and not yet
emitted, the recorded numbers are those of the parents not yet emitted, and what is emitted is the
beginning of a greedy order (`TraversalInv`).  One lemma says what releasing the children of a
transaction does (`foldEach_releaseChild`), one what a turn keeps (`traversalInv_emit`), and one what
the loop ends with (`emitAll_spec`): without cycles nothing is left.
-/

namespace OpnetNode.TransactionSorter

open Greedy Proc PriorityQueue

variable {N : List Transaction} {graph : DependencyGraph}
  {Q : PriorityQueue PriorityCache String Transaction} (hQ : Q.Lawful)

/-! ### The parents not yet emitted -/

def missing (N emitted : List Transaction) (tx : Transaction) : ℕ :=
  N.countP fun p => decide (Spends tx p ∧ p ∉ emitted)

variable {emitted : List Transaction} {tx : Transaction}

theorem missing_eq_zero : missing N emitted tx = 0 ↔ Ready parentOf N emitted tx := by
  unfold missing
  rw [List.countP_eq_zero]
  constructor
  · intro h p hp hspends
    by_contra hnot
    exact h p hp (decide_eq_true ⟨hspends, hnot⟩)
  · intro h p hp hmissing
    obtain ⟨hspends, hnot⟩ := of_decide_eq_true hmissing
    exact hnot (h p hp hspends)

variable {a : Transaction}

theorem missing_concat_of_spends (hnodup : N.Nodup)
    (ha : a ∈ N) (hnew : a ∉ emitted) (hspends : Spends tx a) :
    missing N emitted tx = missing N (emitted ++ [a]) tx + 1 := by
  refine countP_eq_add_one hnodup ha ?_ ?_ fun p _ hne => ?_
  · simp
  · simp [hspends, hnew]
  · simp [hne]

theorem missing_concat_of_not_spends
    (hspends : ¬ Spends tx a) : missing N (emitted ++ [a]) tx = missing N emitted tx := by
  unfold missing
  apply List.countP_congr
  intro p _
  rw [decide_eq_true_eq, decide_eq_true_eq, List.mem_append, List.mem_singleton]
  constructor
  · rintro ⟨h, hnot⟩
    exact ⟨h, fun hmem => hnot (Or.inl hmem)⟩
  · rintro ⟨h, hnot⟩
    refine ⟨h, fun hmem => ?_⟩
    rcases hmem with hmem | rfl
    · exact hnot hmem
    · exact hspends h

theorem missing_nil (hacyclic : Acyclic parentOf N) (htx : tx ∈ N) :
    (N.countP fun p => decide (Spends tx p ∧ p ≠ tx)) = missing N [] tx := by
  unfold missing
  apply List.countP_congr
  intro p hp
  rw [decide_eq_true_eq, decide_eq_true_eq]
  refine and_congr_right fun hspends => ⟨fun _ => List.not_mem_nil, fun _ => ?_⟩
  exact ne_of_parentIn hacyclic ⟨hp, htx, hspends⟩

/-! ### Releasing children -/

theorem releaseChild_spec (hids : (ids N).Nodup) (hacyclic : Acyclic parentOf N)
    (hgraph : GraphOf N graph) {c : Transaction} (hc : c ∈ N) (t : Traversal Q)
    (hheap : hQ.heap (Precedes N) t.availableTxs) (hitems : ∀ b ∈ hQ.items t.availableTxs, b ∈ N)
    (cache : PriorityCache) (hcache : CacheOk N cache) :
    ∃ t' cache', releaseChild graph t c.transactionIdString cache = (.ok t', cache') ∧
      CacheOk N cache' ∧ t'.resultTxs = t.resultTxs ∧ hQ.heap (Precedes N) t'.availableTxs ∧
      t'.inDegree = t.inDegree.set c.transactionIdString
        ((t.inDegree.get c.transactionIdString).getD 0 - 1) ∧
      (hQ.items t'.availableTxs).Perm
        ((if (t.inDegree.get c.transactionIdString).getD 0 = 1 then [c] else []) ++
          hQ.items t.availableTxs) := by
  unfold releaseChild
  by_cases hone : (t.inDegree.get c.transactionIdString).getD 0 = 1
  · obtain ⟨q', cache', henqueue, hcache', hheap', hperm⟩ :=
      hQ.enqueue (decidesOrder_compareByPriority hids hacyclic hgraph) c t.availableTxs cache hc
        hitems hheap hcache
    have hzero : (t.inDegree.get c.transactionIdString).getD 0 - 1 = 0 := by omega
    rw [if_pos hzero, if_pos hone, getTx_eq hgraph hc, pure_bind]
    refine ⟨{ t with
      inDegree := t.inDegree.set c.transactionIdString
        ((t.inDegree.get c.transactionIdString).getD 0 - 1)
      availableTxs := q' }, cache', ?_, hcache', rfl, hheap', rfl, hperm⟩
    exact bind_of_ok henqueue
  · have hzero : (t.inDegree.get c.transactionIdString).getD 0 - 1 ≠ 0 := by omega
    rw [if_neg hzero, if_neg hone]
    exact ⟨_, cache, rfl, hcache, rfl, hheap, rfl, List.Perm.refl _⟩

theorem foldEach_releaseChild (hids : (ids N).Nodup) (hacyclic : Acyclic parentOf N)
    (hgraph : GraphOf N graph) (children : List String) (hnodup : children.Nodup)
    (hchildren : ∀ id ∈ children, ∃ c ∈ N, c.transactionIdString = id) (t : Traversal Q)
    (hheap : hQ.heap (Precedes N) t.availableTxs) (hitems : ∀ b ∈ hQ.items t.availableTxs, b ∈ N)
    (cache : PriorityCache) (hcache : CacheOk N cache) :
    ∃ t' cache' released, foldEach (releaseChild graph) t children cache = (.ok t', cache') ∧
      CacheOk N cache' ∧ t'.resultTxs = t.resultTxs ∧ hQ.heap (Precedes N) t'.availableTxs ∧
      (∀ id, t'.inDegree.get id =
        if id ∈ children then some ((t.inDegree.get id).getD 0 - 1) else t.inDegree.get id) ∧
      (hQ.items t'.availableTxs).Perm (released ++ hQ.items t.availableTxs) ∧ released.Nodup ∧
      ∀ tx, tx ∈ released ↔ tx ∈ N ∧ tx.transactionIdString ∈ children ∧
        (t.inDegree.get tx.transactionIdString).getD 0 = 1 := by
  induction children generalizing t cache with
  | nil =>
    refine ⟨t, cache, [], rfl, hcache, rfl, hheap, fun id => ?_, List.Perm.refl _, List.nodup_nil,
      fun tx => ?_⟩
    · rw [if_neg List.not_mem_nil]
    · simp
  | cons id children ih =>
    obtain ⟨hid, hrest⟩ := List.nodup_cons.mp hnodup
    obtain ⟨c, hc, rfl⟩ := hchildren id List.mem_cons_self
    obtain ⟨t₁, cache₁, hrun₁, hcache₁, hresult₁, hheap₁, hdeg₁, hperm₁⟩ :=
      releaseChild_spec hQ hids hacyclic hgraph hc t hheap hitems cache hcache
    have hitems₁ : ∀ b ∈ hQ.items t₁.availableTxs, b ∈ N := by
      intro b hb
      rcases List.mem_append.mp (hperm₁.mem_iff.mp hb) with hb | hb
      · split_ifs at hb
        · rw [List.mem_singleton.mp hb]
          exact hc
        · exact absurd hb List.not_mem_nil
      · exact hitems b hb
    obtain ⟨t', cache', released, hrun, hcache', hresult, hheap', hdeg, hperm, hnodup', hmem⟩ :=
      ih hrest (fun id hid => hchildren id (List.mem_cons_of_mem _ hid)) t₁ hheap₁ hitems₁ cache₁
        hcache₁
    -- What is recorded of the other children does not change.
    have hget {id : String} (hne : id ≠ c.transactionIdString) :
        t₁.inDegree.get id = t.inDegree.get id := by
      rw [hdeg₁, JsMap.get_set_of_ne t.inDegree _ hne]
    have hne {id : String} (hmem : id ∈ children) : id ≠ c.transactionIdString :=
      fun heq => hid (heq ▸ hmem)
    refine ⟨t', cache', released ++
      (if (t.inDegree.get c.transactionIdString).getD 0 = 1 then [c] else []), ?_, hcache',
      hresult.trans hresult₁, hheap', fun id => ?_, ?_, ?_, fun tx => ?_⟩
    · exact (bind_of_ok hrun₁).trans hrun
    · rw [hdeg]
      by_cases heq : id = c.transactionIdString
      · rw [heq, if_neg hid, if_pos List.mem_cons_self, hdeg₁, JsMap.get_set_self]
      · rw [hget heq]
        by_cases hin : id ∈ children
        · rw [if_pos hin, if_pos (List.mem_cons_of_mem _ hin)]
        · have hnot : id ∉ c.transactionIdString :: children :=
            fun h => (List.mem_cons.mp h).elim heq hin
          rw [if_neg hin, if_neg hnot]
    · rw [List.append_assoc]
      exact hperm.trans (hperm₁.append_left released)
    · have hnotReleased : c ∉ released := fun h => hid ((hmem c).mp h).2.1
      split_ifs
      · exact List.nodup_append.mpr ⟨hnodup', List.nodup_singleton c, fun a ha b hb hab =>
          hnotReleased (List.mem_singleton.mp hb ▸ hab ▸ ha)⟩
      · rwa [List.append_nil]
    · rw [List.mem_append, hmem]
      constructor
      · rintro (⟨htx, hin, hone⟩ | hc')
        · rw [hget (hne hin)] at hone
          exact ⟨htx, List.mem_cons_of_mem _ hin, hone⟩
        · split_ifs at hc' with hone
          · rw [List.mem_singleton.mp hc']
            exact ⟨hc, List.mem_cons_self, hone⟩
          · exact absurd hc' List.not_mem_nil
      · rintro ⟨htx, hin, hone⟩
        rcases List.mem_cons.mp hin with heq | hin
        · right
          rw [eq_of_id_eq hids htx hc heq] at hone ⊢
          rw [if_pos hone]
          exact List.mem_singleton_self c
        · left
          exact ⟨htx, hin, by rwa [hget (hne hin)]⟩

/-! ### The loop -/

/-- What holds before and after each turn. -/
structure TraversalInv (N : List Transaction) (t : Traversal Q) : Prop where
  nodup : (hQ.items t.availableTxs ++ t.resultTxs).Nodup
  mem : ∀ tx ∈ hQ.items t.availableTxs ++ t.resultTxs, tx ∈ N
  heap : hQ.heap (Precedes N) t.availableTxs
  ready : ∀ tx ∈ hQ.items t.availableTxs ++ t.resultTxs, Ready parentOf N t.resultTxs tx
  available : ∀ tx ∈ N, Ready parentOf N t.resultTxs tx →
    tx ∈ hQ.items t.availableTxs ++ t.resultTxs
  inDegree : ∀ tx ∈ N, t.inDegree.get tx.transactionIdString =
    some (missing N t.resultTxs tx : ℤ)
  greedy : IsGreedyStart parentOf (Precedes N) N t.resultTxs

theorem traversalInv_emit (hids : (ids N).Nodup) (hhashes : ∀ a ∈ N, ∀ b ∈ N,
      a.computedIndexingHash = b.computedIndexingHash → a = b)
    (hacyclic : Acyclic parentOf N) (hgraph : GraphOf N graph) {t : Traversal Q}
    {q' : Q.Queue} (h : TraversalInv hQ N t) (hheap : hQ.heap (Precedes N) q')
    (hperm : (hQ.items t.availableTxs).Perm (a :: hQ.items q'))
    (hmin : ∀ b ∈ hQ.items q', ¬ Precedes N b a) (cache : PriorityCache) (hcache : CacheOk N cache) :
    ∃ t' cache', emit graph { t with availableTxs := q' } a cache = (.ok t', cache') ∧
      CacheOk N cache' ∧ t'.resultTxs = t.resultTxs ++ [a] ∧ TraversalInv hQ N t' := by
  have hN : N.Nodup := hids.of_map
  have hitem : a ∈ hQ.items t.availableTxs := hperm.mem_iff.mpr List.mem_cons_self
  have ha : a ∈ N := h.mem a (List.mem_append_left _ hitem)
  obtain ⟨hnodupItems, hnodupResult, hdisjoint⟩ := List.nodup_append.mp h.nodup
  have hnew : a ∉ t.resultTxs := fun hmem => hdisjoint a hitem a hmem rfl
  obtain ⟨haq, hnodupq⟩ := List.nodup_cons.mp (hperm.nodup_iff.mp hnodupItems)
  have hq (b : Transaction) (hb : b ∈ hQ.items q') : b ∈ hQ.items t.availableTxs :=
    hperm.mem_iff.mpr (List.mem_cons_of_mem a hb)
  obtain ⟨children, hchildren, hnodup, hmem⟩ := hgraph.children a ha
  obtain ⟨t', cache', released, hrun, hcache', hresult, hheap', hdeg, hperm', hnodup', hreleased⟩ :=
    foldEach_releaseChild hQ hids hacyclic hgraph children hnodup
      (fun id hid => by
        obtain ⟨c, hc, heq, -⟩ := (hmem id).mp hid
        exact ⟨c, hc, heq⟩)
      { t with availableTxs := q', resultTxs := t.resultTxs ++ [a] } hheap
      (fun b hb => h.mem b (List.mem_append_left _ (hq b hb))) cache hcache
  -- The children of the emitted transaction are those that spend its outputs.
  have hchild {tx : Transaction} (htx : tx ∈ N) : tx.transactionIdString ∈ children ↔ Spends tx a := by
    rw [hmem]
    constructor
    · rintro ⟨c, hc, heq, hspends, -⟩
      rwa [eq_of_id_eq hids hc htx heq] at hspends
    · intro hspends
      exact ⟨tx, htx, rfl, hspends, ne_of_parentIn hacyclic ⟨ha, htx, hspends⟩⟩
  have hcount {tx : Transaction} (htx : tx ∈ N) :
      (t.inDegree.get tx.transactionIdString).getD 0 = missing N t.resultTxs tx := by
    rw [h.inDegree tx htx, Option.getD_some]
  -- A transaction becomes ready if the emitted one was its last missing parent.
  have hbecomes {tx : Transaction} (htx : tx ∈ N) : tx ∈ released ↔
      Ready parentOf N (t.resultTxs ++ [a]) tx ∧ ¬ Ready parentOf N t.resultTxs tx := by
    rw [hreleased, hchild htx, ← missing_eq_zero, ← missing_eq_zero]
    show _ ∧ _ ∧ (t.inDegree.get tx.transactionIdString).getD 0 = 1 ↔ _
    rw [hcount htx]
    by_cases hspends : Spends tx a
    · have hdown := missing_concat_of_spends hN ha hnew hspends
      constructor
      · rintro ⟨-, -, hone⟩
        omega
      · rintro ⟨hzero, -⟩
        exact ⟨htx, hspends, by omega⟩
    · rw [missing_concat_of_not_spends hspends]
      constructor
      · exact fun h => absurd h.2.1 hspends
      · exact fun h => absurd h.1 h.2
  have hreleasedMem (tx : Transaction) (htx : tx ∈ released) : tx ∈ N := ((hreleased tx).mp htx).1
  have hset : ∀ tx, tx ∈ hQ.items t'.availableTxs ++ t'.resultTxs ↔
      tx ∈ released ∨ tx ∈ hQ.items t.availableTxs ++ t.resultTxs := by
    intro tx
    rw [hresult]
    simp only [List.mem_append, hperm'.mem_iff, hperm.mem_iff, List.mem_cons, List.not_mem_nil,
      or_false]
    tauto
  refine ⟨t', cache', ?_, hcache', hresult, ?_⟩
  · show foldEach _ _ _ cache = _
    rw [hchildren]
    exact hrun
  · have hmem' : ∀ tx ∈ hQ.items t'.availableTxs ++ t'.resultTxs, tx ∈ N := by
      intro tx htx
      rcases (hset tx).mp htx with hreleased | hold
      · exact hreleasedMem tx hreleased
      · exact h.mem tx hold
    refine ⟨?_, hmem', hheap', fun tx htx => ?_, fun tx htx hready => ?_, fun tx htx => ?_, ?_⟩
    · have hrearranged : (hQ.items t'.availableTxs ++ t'.resultTxs).Perm
          (released ++ (hQ.items t.availableTxs ++ t.resultTxs)) := by
        rw [hresult]
        calc hQ.items t'.availableTxs ++ (t.resultTxs ++ [a])
          _ |>.Perm (released ++ hQ.items q' ++ (t.resultTxs ++ [a])) := hperm'.append_right _
          _ |>.Perm (released ++ (a :: hQ.items q' ++ t.resultTxs)) := by
            rw [List.append_assoc]
            refine List.Perm.append_left released ?_
            rw [← List.append_assoc]
            exact List.perm_append_singleton a _
          _ |>.Perm (released ++ (hQ.items t.availableTxs ++ t.resultTxs)) :=
            (hperm.symm.append_right _).append_left released
      rw [hrearranged.nodup_iff]
      refine List.nodup_append.mpr ⟨hnodup', h.nodup, ?_⟩
      rintro x hx y hy rfl
      exact ((hbecomes (hreleasedMem x hx)).mp hx).2 (h.ready x hy)
    · rw [hresult]
      rcases (hset tx).mp htx with hreleased | hold
      · exact ((hbecomes (hreleasedMem tx hreleased)).mp hreleased).1
      · exact (h.ready tx hold).append
    · rw [hresult] at hready
      rw [hset]
      by_cases hbefore : Ready parentOf N t.resultTxs tx
      · exact Or.inr (h.available tx htx hbefore)
      · exact Or.inl ((hbecomes htx).mpr ⟨hready, hbefore⟩)
    · rw [hdeg, hresult]
      show _ = _
      by_cases hspends : Spends tx a
      · have hdown := missing_concat_of_spends hN ha hnew hspends
        rw [if_pos ((hchild htx).mpr hspends), hcount htx, hdown]
        push_cast
        rw [add_sub_cancel_right]
      · rw [if_neg fun hin => hspends ((hchild htx).mp hin), h.inDegree tx htx,
          missing_concat_of_not_spends hspends]
    · rw [hresult]
      refine h.greedy.concat (h.ready a (List.mem_append_left _ hitem)) ?_
      intro b hb hnot hne hready
      have hbq : b ∈ hQ.items q' := by
        rcases List.mem_append.mp (h.available b hb hready) with hin | hin
        · exact (List.mem_cons.mp (hperm.mem_iff.mp hin)).resolve_left hne
        · exact absurd hin hnot
      rcases precedes_total (N := N) fun heq => hne (hhashes b hb a ha heq) with hbad | hgood
      · exact absurd hbad (hmin b hbq)
      · exact hgood

theorem foldEach_enqueueRoot (hids : (ids N).Nodup) (hacyclic : Acyclic parentOf N)
    (hgraph : GraphOf N graph) (entries : List (String × ℤ)) (hnodup : (entries.map Prod.fst).Nodup)
    (hentries : ∀ e ∈ entries, ∃ c ∈ N, c.transactionIdString = e.1) (q : Q.Queue)
    (hheap : hQ.heap (Precedes N) q) (hitems : ∀ b ∈ hQ.items q, b ∈ N) (cache : PriorityCache)
    (hcache : CacheOk N cache) :
    ∃ q' cache' roots, foldEach (enqueueRoot graph) q entries cache = (.ok q', cache') ∧
      CacheOk N cache' ∧ hQ.heap (Precedes N) q' ∧ (hQ.items q').Perm (roots ++ hQ.items q) ∧
      roots.Nodup ∧ ∀ tx, tx ∈ roots ↔ tx ∈ N ∧ (tx.transactionIdString, 0) ∈ entries := by
  induction entries generalizing q cache with
  | nil => exact ⟨q, cache, [], rfl, hcache, hheap, List.Perm.refl _, List.nodup_nil, by simp⟩
  | cons e entries ih =>
    obtain ⟨he, hrest⟩ := List.nodup_cons.mp hnodup
    obtain ⟨c, hc, hid⟩ := hentries e List.mem_cons_self
    have hentries' : ∀ e ∈ entries, ∃ c ∈ N, c.transactionIdString = e.1 :=
      fun e he => hentries e (List.mem_cons_of_mem _ he)
    -- only an entry without parents is enqueued
    by_cases hzero : e.2 = 0
    · obtain ⟨q₁, cache₁, henqueue, hcache₁, hheap₁, hperm₁⟩ :=
        hQ.enqueue (decidesOrder_compareByPriority hids hacyclic hgraph) c q cache hc hitems hheap
          hcache
      have hitems₁ : ∀ b ∈ hQ.items q₁, b ∈ N := by
        intro b hb
        rcases List.mem_cons.mp (hperm₁.mem_iff.mp hb) with rfl | hb
        · exact hc
        · exact hitems b hb
      obtain ⟨q', cache', roots, hrun, hcache', hheap', hperm, hnodup', hmem⟩ :=
        ih hrest hentries' q₁ hheap₁ hitems₁ cache₁ hcache₁
      -- the ids of the entries are different, so no root is enqueued twice
      have hnotRoot : c ∉ roots := by
        intro hroot
        exact he (List.mem_map.mpr ⟨_, ((hmem c).mp hroot).2, hid⟩)
      refine ⟨q', cache', c :: roots, ?_, hcache', hheap', ?_, List.nodup_cons.mpr ⟨hnotRoot, hnodup'⟩,
        fun tx => ?_⟩
      · show bindResult _ _ = _
        have hstep : enqueueRoot graph q e cache = (.ok q₁, cache₁) := by
          unfold enqueueRoot
          rw [if_pos hzero, ← hid, getTx_eq hgraph hc, pure_bind]
          exact henqueue
        rw [hstep]
        exact hrun
      · exact (hperm.trans (hperm₁.append_left roots)).trans List.perm_middle
      · have hentry : e = (c.transactionIdString, 0) := Prod.ext hid.symm hzero
        rw [List.mem_cons, hmem, List.mem_cons, hentry, Prod.mk.injEq]
        constructor
        · rintro (rfl | ⟨htx, hin⟩)
          · exact ⟨hc, Or.inl ⟨rfl, rfl⟩⟩
          · exact ⟨htx, Or.inr hin⟩
        · rintro ⟨htx, ⟨heq, -⟩ | hin⟩
          · exact Or.inl (eq_of_id_eq hids htx hc heq)
          · exact Or.inr ⟨htx, hin⟩
    · obtain ⟨q', cache', roots, hrun, hcache', hheap', hperm, hnodup', hmem⟩ :=
        ih hrest hentries' q hheap hitems cache hcache
      refine ⟨q', cache', roots, ?_, hcache', hheap', hperm, hnodup', fun tx => ?_⟩
      · show bindResult _ _ = _
        have hstep : enqueueRoot graph q e cache = (.ok q, cache) := by
          unfold enqueueRoot
          rw [if_neg hzero]
          rfl
        rw [hstep]
        exact hrun
      · have hne : (tx.transactionIdString, 0) ≠ e := fun heq => hzero (by rw [← heq])
        rw [hmem, List.mem_cons, or_iff_right hne]

theorem emitAll_succ (fuel : ℕ) (t : Traversal Q) (cache : PriorityCache) :
    emitAll graph (fuel + 1) t cache =
      (if Q.isEmpty t.availableTxs = true then pure t
      else do
        let dequeued ← Q.dequeue (compareByPriority graph) t.availableTxs
        match dequeued.1 with
        | none => pure { t with availableTxs := dequeued.2 }
        | some nextTx => do
          let t ← emit graph { t with availableTxs := dequeued.2 } nextTx
          emitAll graph fuel t : SortM (Traversal Q)) cache := rfl

theorem emitAll_spec (hids : (ids N).Nodup) (hhashes : ∀ a ∈ N, ∀ b ∈ N,
      a.computedIndexingHash = b.computedIndexingHash → a = b)
    (hacyclic : Acyclic parentOf N) (hgraph : GraphOf N graph) (fuel : ℕ) (t : Traversal Q)
    (h : TraversalInv hQ N t) (hfuel : N.length ≤ t.resultTxs.length + fuel) (cache : PriorityCache)
    (hcache : CacheOk N cache) :
    ∃ t' cache', emitAll graph fuel t cache = (.ok t', cache') ∧ TraversalInv hQ N t' ∧
      hQ.items t'.availableTxs = [] := by
  induction fuel generalizing t cache with
  | zero =>
    -- What is emitted and what is available are distinct transactions of the list.
    have hsubperm : (hQ.items t.availableTxs ++ t.resultTxs).Subperm N :=
      List.subperm_of_subset h.nodup h.mem
    have hlength := hsubperm.length_le
    rw [List.length_append] at hlength
    have hzero : (hQ.items t.availableTxs).length = 0 := by omega
    exact ⟨t, cache, rfl, h, List.eq_nil_of_length_eq_zero hzero⟩
  | succ fuel ih =>
    rw [emitAll_succ]
    by_cases hempty : Q.isEmpty t.availableTxs = true
    · rw [if_pos hempty]
      exact ⟨t, cache, rfl, h, (hQ.isEmpty_iff _).mp hempty⟩
    · rw [if_neg hempty]
      have hne : hQ.items t.availableTxs ≠ [] := fun heq => hempty ((hQ.isEmpty_iff _).mpr heq)
      obtain ⟨a, q', cache₁, hdequeue, hcache₁, hheap, hperm, hmin⟩ :=
        hQ.dequeue (decidesOrder_compareByPriority hids hacyclic hgraph) t.availableTxs cache
          (fun b hb => h.mem b (List.mem_append_left _ hb)) h.heap hne hcache
      obtain ⟨t₁, cache₂, hemit, hcache₂, hresult, h₁⟩ :=
        traversalInv_emit hQ hids hhashes hacyclic hgraph h hheap hperm hmin cache₁ hcache₁
      have hfuel₁ : N.length ≤ t₁.resultTxs.length + fuel := by
        rw [hresult, List.length_append, List.length_singleton]
        omega
      obtain ⟨t', cache', hrest, h', hitems⟩ := ih t₁ h₁ hfuel₁ cache₂ hcache₂
      refine ⟨t', cache', ?_, h', hitems⟩
      refine (bind_of_ok hdequeue).trans ?_
      exact (bind_of_ok hemit).trans hrest

theorem perm_of_traversalInv (hacyclic : Acyclic parentOf N) (hN : N.Nodup) {t : Traversal Q}
    (h : TraversalInv hQ N t) (hitems : hQ.items t.availableTxs = []) : t.resultTxs.Perm N := by
  have hnodup := h.nodup
  rw [hitems, List.nil_append] at hnodup
  rw [List.perm_ext_iff_of_nodup hnodup hN]
  intro tx
  have hmem := h.mem tx
  rw [hitems, List.nil_append] at hmem
  refine ⟨hmem, fun htx => ?_⟩
  by_contra hleft
  obtain ⟨a, ha, hnot, hready⟩ := exists_ready hacyclic ⟨tx, htx, hleft⟩
  have havailable := h.available a ha hready
  rw [hitems, List.nil_append] at havailable
  exact hnot havailable

theorem traversalInv_start (hacyclic : Acyclic parentOf N) (hgraph : GraphOf N graph) {q : Q.Queue}
    {roots : List Transaction} (hheap : hQ.heap (Precedes N) q) (hperm : (hQ.items q).Perm roots)
    (hnodup : roots.Nodup)
    (hroots : ∀ tx, tx ∈ roots ↔ tx ∈ N ∧ (tx.transactionIdString, 0) ∈ graph.inDegree.entries) :
    TraversalInv hQ N { inDegree := graph.inDegree, availableTxs := q, resultTxs := [] } := by
  have hdegree (tx : Transaction) (htx : tx ∈ N) :
      graph.inDegree.get tx.transactionIdString = some (missing N [] tx : ℤ) := by
    rw [hgraph.inDegree]
    exact ⟨tx, htx, rfl, by rw [missing_nil hacyclic htx]⟩
  have hiff (tx : Transaction) (htx : tx ∈ N) : tx ∈ roots ↔ Ready parentOf N [] tx := by
    rw [hroots, JsMap.mem_entries_iff, hdegree tx htx, ← missing_eq_zero, and_iff_right htx,
      Option.some.injEq, Nat.cast_eq_zero]
  have hitems (tx : Transaction) : tx ∈ hQ.items q ++ [] ↔ tx ∈ roots := by
    rw [List.append_nil, hperm.mem_iff]
  refine ⟨?_, fun tx htx => ?_, hheap, fun tx htx => ?_, fun tx htx hready => ?_, hdegree,
    IsGreedyStart.nil⟩
  · show (hQ.items q ++ []).Nodup
    rw [List.append_nil, hperm.nodup_iff]
    exact hnodup
  · exact ((hroots tx).mp ((hitems tx).mp htx)).1
  · have hroot := (hitems tx).mp htx
    exact (hiff tx ((hroots tx).mp hroot).1).mp hroot
  · exact (hitems tx).mpr ((hiff tx htx).mpr hready)

include hQ in
theorem sortByFeeWithDependencies_spec (hids : (ids N).Nodup) (hhashes : ∀ a ∈ N, ∀ b ∈ N,
      a.computedIndexingHash = b.computedIndexingHash → a = b)
    (hacyclic : Acyclic parentOf N) :
    ∃ order, (sortByFeeWithDependencies Q N .empty).1 = .ok order ∧
      IsGreedy parentOf (Precedes N) N order := by
  have hN : N.Nodup := hids.of_map
  have hgraph : GraphOf N (buildDependencyGraph N) := graphOf_buildDependencyGraph hids
  generalize hdef : buildDependencyGraph N = graph at hgraph
  have hentries : ∀ e ∈ graph.inDegree.entries, ∃ c ∈ N, c.transactionIdString = e.1 := by
    rintro ⟨id, d⟩ he
    obtain ⟨c, hc, hid, -⟩ := (hgraph.inDegree id d).mp ((JsMap.mem_entries_iff _).mp he)
    exact ⟨c, hc, hid⟩
  have hempty : ∀ b ∈ hQ.items Q.empty, b ∈ N := by
    rw [hQ.items_empty]
    exact fun b hb => absurd hb List.not_mem_nil
  obtain ⟨q, cache₁, roots, hrun₁, hcache₁, hheap₁, hperm₁, hnodup₁, hroots⟩ :=
    foldEach_enqueueRoot hQ hids hacyclic hgraph graph.inDegree.entries graph.inDegree.keys_nodup
      hentries Q.empty (hQ.heap_empty _) hempty .empty (cacheOk_empty N)
  rw [hQ.items_empty, List.append_nil] at hperm₁
  have hstart := traversalInv_start hQ hacyclic hgraph hheap₁ hperm₁ hnodup₁ hroots
  obtain ⟨t, cache₂, hrun₂, h₂, hitems₂⟩ := emitAll_spec hQ hids hhashes hacyclic hgraph
    graph.transactionsById.size _ hstart (by rw [hgraph.size]; exact Nat.le_add_left _ _) cache₁
    hcache₁
  have hperm := perm_of_traversalInv hQ hacyclic hN h₂ hitems₂
  refine ⟨t.resultTxs, ?_, h₂.greedy.isGreedy hN hperm⟩
  unfold sortByFeeWithDependencies
  rw [hdef]
  show (bindResult _ _).1 = _
  rw [hrun₁]
  show (bindResult _ (emitAll graph graph.transactionsById.size _ cache₁)).1 = _
  rw [hrun₂]
  show (appendRemaining graph t.resultTxs cache₂).1 = _
  unfold appendRemaining
  rw [if_neg (by rw [hgraph.size, hperm.length_eq]; exact not_not.mpr rfl)]
  rfl

end OpnetNode.TransactionSorter
