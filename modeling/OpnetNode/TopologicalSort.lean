import OpnetNode.SharedSearch

/-!
# Cycles, and the order of a graph without cycles

Two depth-first searches of a graph that is given by what comes next to a node.

* `findCycle` goes down from a node, and fails when it meets a node of the path that it came by.
* `postorder` appends a node to an order after everything that comes next to it.

Below a node that `findCycle` has left there is no cycle, since what comes next to such a node was left
before it (`Finished`). So a search from all nodes fails exactly if there is a cycle
(`exists_foldlM_findCycle_eq_error_iff`). Without cycles, `postorder` never comes back to a node that
it is busy with, and gives an order of all nodes (`ordered_foldl_postorder`).
-/

namespace OpnetNode.TopologicalSort

open Relation SharedSearch

variable {α ε : Type} [DecidableEq α]

/-- `b` comes next to `a`. -/
def Edge (next : α → List α) (a b : α) : Prop := b ∈ next a

/-- Add a node to those visited. -/
def insertLast (visited : List α) (x : α) : List α :=
  if x ∈ visited then visited else visited ++ [x]

theorem mem_insertLast {visited : List α} {x a : α} :
    a ∈ insertLast visited x ↔ a ∈ visited ∨ a = x := by
  unfold insertLast
  split
  · rename_i hx
    constructor
    · exact Or.inl
    · rintro (ha | rfl)
      · exact ha
      · exact hx
  · rw [List.mem_append, List.mem_singleton]

/-- One node of a search for cycles, by `visit` if it is new. -/
def searchNext (visit : α → List α → Except ε (List α)) (found : α → ε) (path : List α)
    (visited : List α) (y : α) : Except ε (List α) :=
  if y ∉ visited then visit y visited
  else if y ∈ path then .error (found y)
  else .ok visited

/-- Search below a node for a cycle. `path` leads to the node; the visited nodes are returned. -/
def findCycle (next : α → List α) (found : List α → α → ε) :
    ℕ → List α → α → List α → Except ε (List α)
  | 0, _, _, visited => .ok visited
  | n + 1, path, x, visited =>
    (next x).foldlM
      (searchNext (findCycle next found n (path ++ [x])) (found (path ++ [x])) (path ++ [x]))
      (insertLast visited x)

/-- Append a node to the order, after what comes next to it. `busy` holds the nodes whose turn is not
over. -/
def postorder (next : α → List α) : ℕ → List α → List α → α → List α
  | 0, _, order, _ => order
  | n + 1, busy, order, x =>
    if x ∈ order then order
    else if x ∈ busy then order
    else (next x).foldl (postorder next n (x :: busy)) order ++ [x]

variable {next : α → List α}

/-! ### Cycles -/

omit [DecidableEq α] in
theorem mem_of_transGen {p : α → Prop} (hclosed : ∀ a, p a → ∀ b ∈ next a, p b) {a b : α} (ha : p a)
    (hab : TransGen (Edge next) a b) : p b := by
  induction hab with
  | single hb => exact hclosed a ha _ hb
  | tail _ hb ih => exact hclosed _ ih _ hb

/-- Of the visited nodes, those that are not on the path are left for good: they are on no cycle, and
what comes next to them is left as well. -/
def Finished (next : α → List α) (path visited : List α) : Prop :=
  ∀ a ∈ visited, a ∉ path →
    ¬ TransGen (Edge next) a a ∧ ∀ b ∈ next a, b ∈ visited ∧ b ∉ path

/-- What a search of `ys` has done that found no cycle. -/
structure Searched (next : α → List α) (path ys visited visited' : List α) : Prop where
  keeps : ∀ a ∈ visited, a ∈ visited'
  visits : ∀ y ∈ ys, y ∈ visited' ∧ y ∉ path
  finished : Finished next path visited'

/-- The outcome of a search: it went through, or there is a cycle. -/
def Outcome (next : α → List α) (path ys visited : List α) : Except ε (List α) → Prop
  | .ok visited' => Searched next path ys visited visited'
  | .error _ => ∃ y, TransGen (Edge next) y y

/-- A node is left when all that comes next to it is: nothing there leads back to the path. -/
theorem Searched.leave {path visited visited' : List α} {x : α} (hpath : x ∉ path)
    (h : Searched next (path ++ [x]) (next x) (insertLast visited x) visited') :
    Searched next path [x] visited visited' := by
  have hx : x ∈ visited' := h.keeps x (mem_insertLast.mpr (Or.inr rfl))
  have hclosed : ∀ a, (a ∈ visited' ∧ a ∉ path ++ [x]) → ∀ b ∈ next a,
      b ∈ visited' ∧ b ∉ path ++ [x] := by
    intro a ha b hb
    exact (h.finished a ha.1 ha.2).2 b hb
  have hacyclic : ¬ TransGen (Edge next) x x := by
    intro hcycle
    obtain ⟨b, hb, hbx⟩ := TransGen.head'_iff.mp hcycle
    have hleft : x ∉ path ++ [x] := by
      rcases reflTransGen_iff_eq_or_transGen.mp hbx with heq | hbx
      · have hb := (h.visits b hb).2
        rwa [← heq] at hb
      · exact (mem_of_transGen hclosed (h.visits b hb) hbx).2
    exact hleft (by simp)
  have hout : ∀ b, b ∉ path ++ [x] → b ∉ path := by
    intro b hb hmem
    exact hb (List.mem_append_left _ hmem)
  refine ⟨?_, ?_, ?_⟩
  · exact fun a ha => h.keeps a (mem_insertLast.mpr (Or.inl ha))
  · intro y hy
    rw [List.mem_singleton.mp hy]
    exact ⟨hx, hpath⟩
  · intro a ha hnot
    by_cases hax : a = x
    · rw [hax]
      exact ⟨hacyclic, fun b hb => ⟨(h.visits b hb).1, hout b (h.visits b hb).2⟩⟩
    · have hleft : a ∉ path ++ [x] := by simp [hnot, hax]
      obtain ⟨hnone, hnext⟩ := h.finished a ha hleft
      exact ⟨hnone, fun b hb => ⟨(hnext b hb).1, hout b (hnext b hb).2⟩⟩

section

variable {path nodes : List α} {n : ℕ}

theorem outcome_foldlM_searchNext (nodes : List α) (n : ℕ) {visit : α → List α → Except ε (List α)} {found : α → ε}
    (hvisit : ∀ y visited, y ∈ nodes → y ∉ visited → (∀ a ∈ path, a ∈ visited) →
      (∀ a ∈ path, TransGen (Edge next) a y) → Finished next path visited →
      unvisited nodes visited < n → Outcome next path [y] visited (visit y visited))
    {ys visited : List α} (hys : ∀ y ∈ ys, y ∈ nodes ∧ ∀ a ∈ path, TransGen (Edge next) a y)
    (hpath : ∀ a ∈ path, a ∈ visited) (hfinished : Finished next path visited)
    (hfuel : unvisited nodes visited < n) :
    Outcome next path ys visited (ys.foldlM (searchNext visit found path) visited) := by
  induction ys generalizing visited with
  | nil => exact ⟨fun _ ha => ha, by simp, hfinished⟩
  | cons y ys ih =>
    obtain ⟨⟨hnode, hreach⟩, hys⟩ := List.forall_mem_cons.mp hys
    rw [List.foldlM_cons]
    have hfirst : Outcome next path [y] visited (searchNext visit found path visited y) := by
      unfold searchNext
      -- a node is searched if it is new, and closes a cycle if it is on the path
      by_cases hnew : y ∉ visited
      · rw [if_pos hnew]
        exact hvisit y visited hnode hnew hpath hreach hfinished hfuel
      · rw [if_neg hnew]
        by_cases hback : y ∈ path
        · rw [if_pos hback]
          exact ⟨y, hreach y hback⟩
        · rw [if_neg hback]
          refine ⟨fun _ ha => ha, ?_, hfinished⟩
          intro z hz
          rw [List.mem_singleton.mp hz]
          exact ⟨not_not.mp hnew, hback⟩
    cases hrun : searchNext visit found path visited y with
    | error e =>
      rw [hrun] at hfirst
      exact hfirst
    | ok visited₁ =>
      rw [hrun] at hfirst
      have hless : unvisited nodes visited₁ ≤ unvisited nodes visited := unvisited_le hfirst.keeps
      have hrest := ih hys (fun a ha => hfirst.keeps a (hpath a ha)) hfirst.finished
        (Nat.lt_of_le_of_lt hless hfuel)
      show Outcome next path (y :: ys) visited (ys.foldlM _ visited₁)
      cases hrun' : ys.foldlM (searchNext visit found path) visited₁ with
      | error e =>
        rw [hrun'] at hrest
        exact hrest
      | ok visited₂ =>
        rw [hrun'] at hrest
        refine ⟨fun a ha => hrest.keeps a (hfirst.keeps a ha), ?_, hrest.finished⟩
        rw [List.forall_mem_cons]
        have hy := hfirst.visits y (List.mem_singleton_self y)
        exact ⟨⟨hrest.keeps y hy.1, hy.2⟩, hrest.visits⟩

variable (hnodes : ∀ a ∈ nodes, ∀ b ∈ next a, b ∈ nodes)

include hnodes

theorem outcome_findCycle {found : List α → α → ε} {x : α} {visited : List α} (hx : x ∈ nodes)
    (hnew : x ∉ visited) (hpath : ∀ a ∈ path, a ∈ visited)
    (hreach : ∀ a ∈ path, TransGen (Edge next) a x) (hfinished : Finished next path visited)
    (hfuel : unvisited nodes visited < n) :
    Outcome next path [x] visited (findCycle next found n path x visited) := by
  induction n generalizing path x visited with
  | zero => exact absurd hfuel (Nat.not_lt_zero _)
  | succ n ih =>
    have hlast : insertLast visited x = visited ++ [x] := if_neg hnew
    -- the search of the node is the search of its successors, with the node on the path
    have hsearch : Outcome next (path ++ [x]) (next x) (insertLast visited x)
        (findCycle next found (n + 1) path x visited) := by
      rw [findCycle]
      apply outcome_foldlM_searchNext nodes n
      · intro y visited hy hnew hpath hreach hfinished hfuel
        exact ih hy hnew hpath hreach hfinished hfuel
      · intro y hy
        refine ⟨hnodes x hx y hy, ?_⟩
        intro a ha
        rcases List.mem_append.mp ha with ha | ha
        · exact (hreach a ha).tail hy
        · rw [List.mem_singleton.mp ha]
          exact TransGen.single hy
      · intro a ha
        rw [mem_insertLast]
        rcases List.mem_append.mp ha with ha | ha
        · exact Or.inl (hpath a ha)
        · exact Or.inr (List.mem_singleton.mp ha)
      · -- what was finished before is finished, and the node is none of its successors
        intro a ha hnot
        rw [List.mem_append, List.mem_singleton, not_or] at hnot
        obtain ⟨hnone, hnext⟩ :=
          hfinished a ((mem_insertLast.mp ha).resolve_right hnot.2) hnot.1
        refine ⟨hnone, ?_⟩
        intro b hb
        obtain ⟨hvisited, hleft⟩ := hnext b hb
        have hbx : b ≠ x := by
          rintro rfl
          exact hnew hvisited
        exact ⟨mem_insertLast.mpr (Or.inl hvisited), by simp [hleft, hbx]⟩
      · have hless := unvisited_cons_lt hx hnew
        have hmore : unvisited nodes (insertLast visited x) ≤ unvisited nodes (x :: visited) := by
          apply unvisited_le
          intro a ha
          rw [mem_insertLast, or_comm, ← List.mem_cons]
          exact ha
        omega
    cases hrun : findCycle next found (n + 1) path x visited with
    | error e =>
      rw [hrun] at hsearch
      exact hsearch
    | ok visited' =>
      rw [hrun] at hsearch
      exact Searched.leave (fun hmem => hnew (hpath x hmem)) hsearch

/-- **A search from all nodes fails exactly if there is a cycle.** -/
theorem exists_foldlM_findCycle_eq_error_iff {found : List α → α → ε} {f : α → ε}
    (hall : ∀ a, a ∉ nodes → next a = []) (hfuel : nodes.length < n) :
    (∃ e, nodes.foldlM (searchNext (findCycle next found n []) f []) [] = .error e) ↔
      ∃ y, TransGen (Edge next) y y := by
  have hsearch : Outcome next [] nodes []
      (nodes.foldlM (searchNext (findCycle next found n []) f []) []) := by
    apply outcome_foldlM_searchNext nodes n
    · intro y visited hy hnew hpath hreach hfinished hfuel
      exact outcome_findCycle hnodes hy hnew hpath hreach hfinished hfuel
    · exact fun y hy => ⟨hy, by simp⟩
    · simp
    · simp [Finished]
    · exact Nat.lt_of_le_of_lt (List.length_filter_le _ _) hfuel
  cases hrun : nodes.foldlM (searchNext (findCycle next found n []) f []) [] with
  | error e =>
    rw [hrun] at hsearch
    exact ⟨fun _ => hsearch, fun _ => ⟨e, rfl⟩⟩
  | ok visited =>
    rw [hrun] at hsearch
    constructor
    · rintro ⟨e, he⟩
      cases he
    · rintro ⟨y, hy⟩
      have hmem : y ∈ nodes := by
        by_contra hnot
        obtain ⟨b, hb, -⟩ := TransGen.head'_iff.mp hy
        rw [Edge, hall y hnot] at hb
        exact absurd hb List.not_mem_nil
      have hleft := hsearch.visits y hmem
      exact absurd hy (hsearch.finished y hleft.1 hleft.2).1

end

/-! ### Orders -/

/-- Each node once, after everything that comes next to it. -/
structure Ordered (next : α → List α) (order : List α) : Prop where
  nodup : order.Nodup
  before : ∀ l x l', order = l ++ x :: l' → ∀ y ∈ next x, y ∈ l

omit [DecidableEq α] in
theorem Ordered.append {order : List α} {x : α} (h : Ordered next order) (hnew : x ∉ order)
    (hnext : ∀ y ∈ next x, y ∈ order) : Ordered next (order ++ [x]) := by
  refine ⟨?_, ?_⟩
  · rw [List.nodup_append]
    refine ⟨h.nodup, by simp, ?_⟩
    intro a ha b hb
    rw [List.mem_singleton.mp hb]
    rintro rfl
    exact hnew ha
  · intro l z l' heq y hy
    rcases List.eq_nil_or_concat l' with rfl | ⟨init, last, rfl⟩
    · obtain ⟨hl, hz⟩ := List.append_inj' heq rfl
      rw [List.singleton_inj] at hz
      rw [← hl]
      exact hnext y (by rwa [hz])
    · have hsplit : order ++ [x] = (l ++ z :: init) ++ [last] := by
        rw [heq]
        simp
      exact h.before l z init (List.append_inj' hsplit rfl).1 y hy

/-- What a turn of `ys` has done to an order. -/
structure Extends (next : α → List α) (busy ys order order' : List α) : Prop where
  keeps : ∀ a ∈ order, a ∈ order'
  includes : ∀ y ∈ ys, y ∈ order'
  /-- The nodes whose turn is not over are not appended. -/
  waits : ∀ a ∈ busy, a ∈ order' → a ∈ order
  ordered : Ordered next order'

omit [DecidableEq α] in
theorem extends_foldl {f : List α → α → List α} {busy : List α} {p : α → Prop}
    (hf : ∀ order y, p y → Ordered next order → Extends next busy [y] order (f order y))
    {ys order : List α} (hys : ∀ y ∈ ys, p y) (hordered : Ordered next order) :
    Extends next busy ys order (ys.foldl f order) := by
  induction ys generalizing order with
  | nil => exact ⟨fun _ ha => ha, by simp, fun _ _ ha => ha, hordered⟩
  | cons y ys ih =>
    obtain ⟨hy, hys⟩ := List.forall_mem_cons.mp hys
    have hfirst := hf order y hy hordered
    have hrest := ih hys hfirst.ordered
    rw [List.foldl_cons]
    refine ⟨?_, ?_, ?_, hrest.ordered⟩
    · exact fun a ha => hrest.keeps a (hfirst.keeps a ha)
    · rw [List.forall_mem_cons]
      exact ⟨hrest.keeps y (hfirst.includes y (List.mem_singleton_self y)), hrest.includes⟩
    · exact fun a ha hmem => hfirst.waits a ha (hrest.waits a ha hmem)

section

variable {nodes : List α} (hnodes : ∀ a ∈ nodes, ∀ b ∈ next a, b ∈ nodes)
  (hacyclic : ∀ y, ¬ TransGen (Edge next) y y)

include hnodes hacyclic

theorem extends_postorder {n : ℕ} {busy order : List α} {x : α} (hx : x ∈ nodes)
    (hreach : ∀ a ∈ busy, TransGen (Edge next) a x) (hordered : Ordered next order)
    (hfuel : unvisited nodes busy < n) :
    Extends next busy [x] order (postorder next n busy order x) := by
  induction n generalizing busy order x with
  | zero => exact absurd hfuel (Nat.not_lt_zero _)
  | succ n ih =>
    -- a busy node that comes again would be on a cycle
    have hidle : x ∉ busy := fun hmem => hacyclic x (hreach x hmem)
    rw [postorder]
    by_cases hdone : x ∈ order
    · rw [if_pos hdone]
      refine ⟨fun _ ha => ha, ?_, fun _ _ ha => ha, hordered⟩
      intro y hy
      rwa [List.mem_singleton.mp hy]
    · rw [if_neg hdone, if_neg hidle]
      have hless := unvisited_cons_lt hx hidle
      have hnext : Extends next (x :: busy) (next x) order
          ((next x).foldl (postorder next n (x :: busy)) order) := by
        apply extends_foldl (p := fun y => y ∈ next x) _ (fun _ hy => hy) hordered
        intro order y hy hordered
        apply ih (hnodes x hx y hy) _ hordered (by omega)
        intro a ha
        rcases List.mem_cons.mp ha with rfl | ha
        · exact TransGen.single hy
        · exact (hreach a ha).tail hy
      have hnew : x ∉ (next x).foldl (postorder next n (x :: busy)) order := fun hmem =>
        hdone (hnext.waits x List.mem_cons_self hmem)
      refine ⟨?_, ?_, ?_, hnext.ordered.append hnew hnext.includes⟩
      · exact fun a ha => List.mem_append_left _ (hnext.keeps a ha)
      · intro y hy
        exact List.mem_append_right _ hy
      · intro a ha hmem
        rcases List.mem_append.mp hmem with hmem | hmem
        · exact hnext.waits a (List.mem_cons_of_mem x ha) hmem
        · rw [List.mem_singleton.mp hmem] at ha
          exact absurd ha hidle

/-- **The order of a graph without cycles**, whatever node is taken first. -/
theorem ordered_foldl_postorder {n : ℕ} {xs : List α} (hxs : ∀ x ∈ xs, x ∈ nodes)
    (hfuel : nodes.length < n) :
    Ordered next (xs.foldl (postorder next n []) []) ∧
      ∀ x ∈ xs, x ∈ xs.foldl (postorder next n []) [] := by
  have hempty : Ordered next [] := ⟨List.nodup_nil, by simp⟩
  have hall : unvisited nodes [] < n := Nat.lt_of_le_of_lt (List.length_filter_le _ _) hfuel
  have hextends : Extends next [] xs [] (xs.foldl (postorder next n []) []) :=
    extends_foldl (p := fun x => x ∈ nodes)
    (fun order y hy hordered => extends_postorder hnodes hacyclic hy (by simp) hordered hall)
    hxs hempty
  exact ⟨hextends.ordered, hextends.includes⟩

end

end OpnetNode.TopologicalSort
