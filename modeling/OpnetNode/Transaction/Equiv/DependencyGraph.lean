import OpnetNode.GreedyOrder
import OpnetNode.Transaction.TransactionSorter

/-!
# What the dependency graph holds

The graph of a list of transactions with distinct ids (`GraphOf`): under each id its transaction, its
children without repetition, and the number of its parents.  It is built edge by edge; `EdgesOf` says
what it holds after the edges of a list, and one edge is one lemma (`edgesOf_addEdge`).
-/

namespace OpnetNode.TransactionSorter

open Greedy

/-- `child` spends an output of `parent`. -/
def Spends (child parent : Transaction) : Prop :=
  ∃ input ∈ child.inputs,
    getInputTransactionId input.originalTransactionId = some parent.transactionIdString

instance (child parent : Transaction) : Decidable (Spends child parent) := by
  unfold Spends
  infer_instance

/-- The transaction whose outputs are spent is the parent. -/
abbrev parentOf (parent child : Transaction) : Prop := Spends child parent

def ids (transactions : List Transaction) : List String :=
  transactions.map Transaction.transactionIdString

variable {N : List Transaction} {graph : DependencyGraph}

theorem eq_of_id_eq (hids : (ids N).Nodup) {a b : Transaction} (ha : a ∈ N) (hb : b ∈ N)
    (h : a.transactionIdString = b.transactionIdString) : a = b :=
  List.inj_on_of_nodup_map hids ha hb h

theorem mem_ids {tx : Transaction} (h : tx ∈ N) : tx.transactionIdString ∈ ids N :=
  List.mem_map_of_mem h

/-! ### Counting -/

theorem countP_eq_add_one {α : Type*} {p q : α → Bool} {a : α} {l : List α} (hnodup : l.Nodup)
    (ha : a ∈ l) (hp : p a = false) (hq : q a = true) (h : ∀ b ∈ l, b ≠ a → q b = p b) :
    l.countP q = l.countP p + 1 := by
  induction l with
  | nil => exact absurd ha List.not_mem_nil
  | cons b l ih =>
    obtain ⟨hb, hl⟩ := List.nodup_cons.mp hnodup
    rcases List.mem_cons.mp ha with rfl | ha
    · have htail : l.countP q = l.countP p := by
        apply List.countP_congr
        intro c hc
        have hne : c ≠ a := fun heq => hb (heq ▸ hc)
        rw [h c (List.mem_cons_of_mem a hc) hne]
      rw [List.countP_cons_of_pos hq, List.countP_cons_of_neg (by simp [hp]), htail]
    · have hne : b ≠ a := fun heq => hb (heq ▸ ha)
      have htail := ih hl ha fun c hc => h c (List.mem_cons_of_mem b hc)
      have hhead := h b List.mem_cons_self hne
      rw [List.countP_cons, List.countP_cons, htail, hhead]
      omega

/-! ### The transactions by their ids -/

theorem byId_eq (N : List Transaction) :
    byId N = (N.map fun tx => (tx.transactionIdString, tx)).foldl (fun m e => m.set e.1 e.2) .empty := by
  rw [List.foldl_map]
  rfl

variable {id : String}

theorem get_byId (hids : (ids N).Nodup) {tx : Transaction} :
    (byId N).get id = some tx ↔ tx ∈ N ∧ tx.transactionIdString = id := by
  have hkeys : ((N.map fun tx => (tx.transactionIdString, tx)).map Prod.fst).Nodup := by
    rw [List.map_map]
    exact hids
  rw [byId_eq, JsMap.read_foldl JsMap.get (fun m e k => JsMap.get_set m e.1 k e.2) _ hkeys,
    JsMap.get_empty, Option.or_none, JsMap.getEntries_eq_some hkeys]
  constructor
  · intro h
    obtain ⟨tx', htx', heq⟩ := List.mem_map.mp h
    cases heq
    exact ⟨htx', rfl⟩
  · rintro ⟨htx, rfl⟩
    exact List.mem_map_of_mem (f := fun tx => (tx.transactionIdString, tx)) htx

theorem mem_keys_byId (hids : (ids N).Nodup) : id ∈ (byId N).entries.map Prod.fst ↔ id ∈ ids N := by
  constructor
  · intro h
    obtain ⟨⟨k, tx⟩, hentry, rfl⟩ := List.mem_map.mp h
    obtain ⟨htx, rfl⟩ := (get_byId hids).mp ((JsMap.mem_entries_iff _).mp hentry)
    exact mem_ids htx
  · intro h
    obtain ⟨tx, htx, rfl⟩ := List.mem_map.mp h
    have hget := (get_byId hids).mpr ⟨htx, rfl⟩
    exact List.mem_map_of_mem (f := Prod.fst) ((JsMap.mem_entries_iff _).mpr hget)

theorem size_byId (hids : (ids N).Nodup) : (byId N).size = N.length := by
  have hperm : ((byId N).entries.map Prod.fst).Perm (ids N) :=
    (List.perm_ext_iff_of_nodup (byId N).keys_nodup hids).mpr fun _ => mem_keys_byId hids
  have hlength := hperm.length_eq
  rwa [List.length_map, ids, List.length_map] at hlength

theorem has_byId (hids : (ids N).Nodup) : (byId N).has id = true ↔ id ∈ ids N := by
  rw [JsMap.has, Option.isSome_iff_exists]
  constructor
  · rintro ⟨tx, htx⟩
    obtain ⟨hmem, rfl⟩ := (get_byId hids).mp htx
    exact mem_ids hmem
  · intro h
    obtain ⟨tx, htx, rfl⟩ := List.mem_map.mp h
    exact ⟨tx, (get_byId hids).mpr ⟨htx, rfl⟩⟩

theorem get_constant {β : Type} (hids : (ids N).Nodup) (v : β) {v' : β} :
    ((byId N).entries.foldl (fun m entry => m.set entry.1 v) (JsMap.empty : JsMap String β)).get id =
      some v' ↔ id ∈ ids N ∧ v' = v := by
  have hfold : (byId N).entries.foldl (fun m entry => m.set entry.1 v) (JsMap.empty : JsMap String β) =
      ((byId N).entries.map fun entry => (entry.1, v)).foldl (fun m e => m.set e.1 e.2) .empty := by
    rw [List.foldl_map]
  have hkeys : (((byId N).entries.map fun entry => (entry.1, v)).map Prod.fst).Nodup := by
    rw [List.map_map]
    exact (byId N).keys_nodup
  rw [hfold, JsMap.read_foldl JsMap.get (fun m e k => JsMap.get_set m e.1 k e.2) _ hkeys,
    JsMap.get_empty, Option.or_none, JsMap.getEntries_eq_some hkeys, ← mem_keys_byId hids]
  constructor
  · intro h
    obtain ⟨entry, hentry, heq⟩ := List.mem_map.mp h
    cases heq
    exact ⟨List.mem_map_of_mem hentry, rfl⟩
  · rintro ⟨hid, rfl⟩
    obtain ⟨entry, hentry, rfl⟩ := List.mem_map.mp hid
    exact List.mem_map_of_mem (f := fun entry : String × Transaction => (entry.1, v')) hentry

/-! ### The edges -/

/-- Whether `c` is recorded as a child of `p` after the edges of a list. -/
def isEdge (edges : List (String × String)) (c p : String) : Bool := (c, p) ∈ edges ∧ p ≠ c

/-- What the graph of the transactions holds after the edges of a list. -/
structure EdgesOf (N : List Transaction) (edges : List (String × String)) (graph : DependencyGraph) :
    Prop where
  byId_eq : graph.transactionsById = byId N
  children : ∀ p ∈ ids N, ∃ children, graph.adjacency.get p = some children ∧ children.Nodup ∧
    ∀ c, c ∈ children ↔ isEdge edges c p = true
  inDegree : ∀ c d, graph.inDegree.get c = some d ↔
    c ∈ ids N ∧ d = ((ids N).countP (isEdge edges c) : ℤ)

variable {edges : List (String × String)}

theorem EdgesOf.congr {edges' : List (String × String)} (h : EdgesOf N edges graph)
    (hedges : ∀ c, ∀ p ∈ ids N, isEdge edges' c p = isEdge edges c p) : EdgesOf N edges' graph where
  byId_eq := h.byId_eq
  children p hp := by
    obtain ⟨children, hget, hnodup, hmem⟩ := h.children p hp
    exact ⟨children, hget, hnodup, fun c => by rw [hmem, hedges c p hp]⟩
  inDegree c d := by
    have hcount : (ids N).countP (isEdge edges' c) = (ids N).countP (isEdge edges c) :=
      List.countP_congr fun p hp => by rw [hedges c p hp]
    rw [h.inDegree c d, hcount]

theorem edgesOf_emptyGraph (hids : (ids N).Nodup) : EdgesOf N [] (emptyGraph N) where
  byId_eq := rfl
  children p hp := ⟨[], (get_constant hids []).mpr ⟨hp, rfl⟩, List.nodup_nil, by simp [isEdge]⟩
  inDegree c d := by
    have hcount : (ids N).countP (isEdge [] c) = 0 := by
      rw [List.countP_eq_zero]
      simp [isEdge]
    rw [hcount]
    exact get_constant hids 0

theorem isEdge_concat (edges : List (String × String)) (c p c' p' : String) :
    isEdge (edges ++ [(c, p)]) c' p' = (isEdge edges c' p' || decide (c' = c ∧ p' = p ∧ p ≠ c)) := by
  rw [Bool.eq_iff_iff]
  simp only [isEdge, List.mem_append, List.mem_singleton, Prod.mk.injEq, Bool.or_eq_true,
    decide_eq_true_eq]
  constructor
  · rintro ⟨hmem | ⟨rfl, rfl⟩, hne⟩
    · exact Or.inl ⟨hmem, hne⟩
    · exact Or.inr ⟨rfl, rfl, hne⟩
  · rintro (⟨hmem, hne⟩ | ⟨rfl, rfl, hne⟩)
    · exact ⟨Or.inl hmem, hne⟩
    · exact ⟨Or.inr ⟨rfl, rfl⟩, hne⟩

variable {c : String}

theorem edgesOf_addEdge (hids : (ids N).Nodup) {p : String}
    (h : EdgesOf N edges graph) (hc : c ∈ ids N) :
    EdgesOf N (edges ++ [(c, p)]) (addEdge c graph p) := by
  -- Where the graph stays as it is, the edge says nothing new of the transactions.
  have hsame (hnew : p ∈ ids N → p ≠ c → isEdge edges c p = true) :
      EdgesOf N (edges ++ [(c, p)]) graph := by
    refine h.congr fun c' p' hp' => ?_
    rw [isEdge_concat]
    by_cases hcp : c' = c ∧ p' = p ∧ p ≠ c
    · obtain ⟨rfl, rfl, hne⟩ := hcp
      rw [hnew hp' hne, Bool.true_or]
    · rw [decide_eq_false hcp, Bool.or_false]
  unfold addEdge
  split_ifs with hskip
  · refine hsame fun hp hne => ?_
    rcases hskip with hnot | heq
    · rw [h.byId_eq, (has_byId hids).mpr hp] at hnot
      cases hnot
    · exact absurd heq hne
  · obtain ⟨hhas, hne⟩ := not_or.mp hskip
    have hp : p ∈ ids N := by
      rw [h.byId_eq, Bool.not_eq_false] at hhas
      exact (has_byId hids).mp hhas
    obtain ⟨children, hget, hnodup, hmem⟩ := h.children p hp
    rw [hget]
    dsimp only
    split_ifs with hin
    · exact hsame fun _ _ => (hmem c).mp hin
    · have hnotEdge : isEdge edges c p = false := by
        rw [← Bool.not_eq_true]
        exact fun hedge => hin ((hmem c).mpr hedge)
      refine ⟨h.byId_eq, fun p' hp' => ?_, fun c' d => ?_⟩
      · dsimp only
        rw [JsMap.get_set]
        by_cases heq : p' = p
        · subst heq
          refine ⟨children ++ [c], by rw [if_pos rfl], ?_, fun c' => ?_⟩
          · exact List.nodup_append.mpr ⟨hnodup, List.nodup_singleton c, fun a ha b hb hab =>
              hin (List.mem_singleton.mp hb ▸ hab ▸ ha)⟩
          · rw [List.mem_append, List.mem_singleton, hmem, isEdge_concat, Bool.or_eq_true,
              decide_eq_true_eq]
            exact or_congr Iff.rfl ⟨fun h => ⟨h, rfl, hne⟩, fun h => h.1⟩
        · obtain ⟨children', hget', hnodup', hmem'⟩ := h.children p' hp'
          refine ⟨children', by rw [if_neg heq, hget'], hnodup', fun c' => ?_⟩
          rw [hmem', isEdge_concat, decide_eq_false (fun hcp => heq hcp.2.1), Bool.or_false]
      · dsimp only
        rw [JsMap.get_set]
        by_cases heq : c' = c
        · subst heq
          have hcount : (ids N).countP (isEdge (edges ++ [(c', p)]) c') =
              (ids N).countP (isEdge edges c') + 1 := by
            refine countP_eq_add_one hids hp hnotEdge ?_ fun p' _ hp' => ?_
            · rw [isEdge_concat, decide_eq_true ⟨rfl, rfl, hne⟩, Bool.or_true]
            · rw [isEdge_concat, decide_eq_false (fun hcp => hp' hcp.2.1), Bool.or_false]
          have hold : graph.inDegree.get c' = some ((ids N).countP (isEdge edges c') : ℤ) :=
            (h.inDegree c' _).mpr ⟨hc, rfl⟩
          rw [if_pos rfl, hold, hcount, Option.getD_some, Option.some.injEq]
          push_cast
          exact ⟨fun h => ⟨hc, h.symm⟩, fun h => h.2.symm⟩
        · have hcount : (ids N).countP (isEdge (edges ++ [(c, p)]) c') =
              (ids N).countP (isEdge edges c') :=
            List.countP_congr fun p' _ => by
              rw [isEdge_concat, decide_eq_false (fun hcp => heq hcp.1), Bool.or_false]
          rw [if_neg heq, h.inDegree c' d, hcount]

def edgesOfInputs (c : String) (inputs : List TransactionInput) : List (String × String) :=
  inputs.filterMap fun input => (getInputTransactionId input.originalTransactionId).map (c, ·)

theorem edgesOf_inputs (hids : (ids N).Nodup)
    (hc : c ∈ ids N) (inputs : List TransactionInput) (h : EdgesOf N edges graph) :
    EdgesOf N (edges ++ edgesOfInputs c inputs) (inputs.foldl (addInput c) graph) := by
  induction inputs generalizing edges graph with
  | nil => simpa [edgesOfInputs] using h
  | cons input inputs ih =>
    rw [List.foldl_cons]
    unfold addInput edgesOfInputs
    rcases hid : getInputTransactionId input.originalTransactionId with _ | p
    · rw [List.filterMap_cons_none (by rw [hid]; rfl)]
      exact ih h
    · rw [List.filterMap_cons_some (by rw [hid]; rfl), List.append_cons]
      exact ih (edgesOf_addEdge hids h hc)

theorem edgesOf_transactions (hids : (ids N).Nodup)
    (l : List Transaction) (hl : ∀ tx ∈ l, tx ∈ N) (h : EdgesOf N edges graph) :
    EdgesOf N (edges ++ l.flatMap fun tx => edgesOfInputs tx.transactionIdString tx.inputs)
      (l.foldl (fun graph tx => tx.inputs.foldl (addInput tx.transactionIdString) graph) graph) := by
  induction l generalizing edges graph with
  | nil => simpa using h
  | cons tx l ih =>
    rw [List.foldl_cons, List.flatMap_cons, ← List.append_assoc]
    have htx : tx.transactionIdString ∈ ids N := mem_ids (hl tx List.mem_cons_self)
    exact ih (fun tx' htx' => hl tx' (List.mem_cons_of_mem tx htx'))
      (edgesOf_inputs hids htx tx.inputs h)

/-! ### The graph -/

/-- What a dependency graph of the transactions holds. -/
structure GraphOf (N : List Transaction) (graph : DependencyGraph) : Prop where
  byId : ∀ id tx, graph.transactionsById.get id = some tx ↔ tx ∈ N ∧ tx.transactionIdString = id
  size : graph.transactionsById.size = N.length
  children : ∀ p ∈ N, ∃ children, graph.adjacency.get p.transactionIdString = some children ∧
    children.Nodup ∧
    ∀ id, id ∈ children ↔ ∃ c ∈ N, c.transactionIdString = id ∧ Spends c p ∧ p ≠ c
  inDegree : ∀ id d, graph.inDegree.get id = some d ↔
    ∃ c ∈ N, c.transactionIdString = id ∧ d = (N.countP fun p => decide (Spends c p ∧ p ≠ c) : ℤ)

theorem mem_edges {p : String} :
    (c, p) ∈ N.flatMap (fun tx => edgesOfInputs tx.transactionIdString tx.inputs) ↔
      ∃ tx ∈ N, tx.transactionIdString = c ∧ ∃ input ∈ tx.inputs,
        getInputTransactionId input.originalTransactionId = some p := by
  rw [List.mem_flatMap]
  refine exists_congr fun tx => and_congr Iff.rfl ?_
  unfold edgesOfInputs
  rw [List.mem_filterMap]
  constructor
  · rintro ⟨input, hinput, hmap⟩
    obtain ⟨p', hp', heq⟩ := Option.map_eq_some_iff.mp hmap
    cases heq
    exact ⟨rfl, input, hinput, hp'⟩
  · rintro ⟨rfl, input, hinput, hp⟩
    exact ⟨input, hinput, by rw [hp, Option.map_some]⟩

theorem isEdge_iff (hids : (ids N).Nodup) {c p : Transaction} (hc : c ∈ N) (hp : p ∈ N) :
    isEdge (N.flatMap fun tx => edgesOfInputs tx.transactionIdString tx.inputs)
      c.transactionIdString p.transactionIdString = true ↔ Spends c p ∧ p ≠ c := by
  unfold isEdge
  rw [decide_eq_true_eq, mem_edges]
  refine and_congr ⟨?_, fun h => ⟨c, hc, rfl, h⟩⟩ (not_congr ⟨eq_of_id_eq hids hp hc, congrArg _⟩)
  rintro ⟨tx, htx, hid, hspends⟩
  rwa [eq_of_id_eq hids htx hc hid] at hspends

theorem graphOf_buildDependencyGraph (hids : (ids N).Nodup) : GraphOf N (buildDependencyGraph N) := by
  have hedges : EdgesOf N (N.flatMap fun tx => edgesOfInputs tx.transactionIdString tx.inputs)
      (buildDependencyGraph N) :=
    edgesOf_transactions hids N (fun _ h => h) (edgesOf_emptyGraph hids)
  refine ⟨fun id tx => ?_, ?_, fun p hp => ?_, fun id d => ?_⟩
  · rw [hedges.byId_eq]
    exact get_byId hids
  · rw [hedges.byId_eq]
    exact size_byId hids
  · obtain ⟨children, hget, hnodup, hmem⟩ := hedges.children _ (mem_ids hp)
    refine ⟨children, hget, hnodup, fun id => ?_⟩
    rw [hmem]
    constructor
    · intro hedge
      obtain ⟨hpair, -⟩ := of_decide_eq_true hedge
      obtain ⟨c, hc, rfl, -⟩ := mem_edges.mp hpair
      exact ⟨c, hc, rfl, (isEdge_iff hids hc hp).mp hedge⟩
    · rintro ⟨c, hc, rfl, hspends⟩
      exact (isEdge_iff hids hc hp).mpr hspends
  · have hcount (c : Transaction) (hc : c ∈ N) :
        (ids N).countP (isEdge (N.flatMap fun tx =>
          edgesOfInputs tx.transactionIdString tx.inputs) c.transactionIdString) =
        N.countP fun p => decide (Spends c p ∧ p ≠ c) := by
      rw [ids, List.countP_map]
      apply List.countP_congr
      intro p hp
      rw [decide_eq_true_eq]
      exact isEdge_iff hids hc hp
    rw [hedges.inDegree]
    constructor
    · rintro ⟨hid, rfl⟩
      obtain ⟨c, hc, rfl⟩ := List.mem_map.mp hid
      exact ⟨c, hc, rfl, by rw [hcount c hc]⟩
    · rintro ⟨c, hc, rfl, rfl⟩
      exact ⟨mem_ids hc, by rw [hcount c hc]⟩

end OpnetNode.TransactionSorter
