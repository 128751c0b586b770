import Mathlib.Data.List.Basic
import Mathlib.Data.Option.Basic
import Mathlib.Logic.Relation

/-!
# Depth-first searches that share what they visited

`collect` goes down from a node and collects what it meets. A node that was visited before, by this
search or by an earlier one, gives nothing: what is below it was collected when it was visited, or is
being collected. `visitEach` runs a search for each of several nodes.

* `Explored`: what a search from some nodes has visited and collected.
* `explored_collect`, `explored_visitEach`: what a search that ends has done.
* `mem_iff_below`: searches that start with nothing visited collect their nodes and what is below.
* `exists_visitEach_collect`: with more fuel than there are nodes, the searches end.
-/

namespace OpnetNode.SharedSearch

variable {α : Type} [DecidableEq α]

/-- A search for each node of a list, one after the other. The collected nodes come with the visited
ones. -/
def visitEach (visit : α → List α → Option (List α × List α)) :
    List α → List α → List α → Option (List α × List α)
  | [], all, visited => some (all, visited)
  | y :: ys, all, visited =>
    (visit y visited).bind fun r => visitEach visit ys (all ++ y :: r.1) r.2

/-- What is below a node, and the nodes visited then. `none`: the fuel is used up. -/
def collect (next : α → List α) : ℕ → α → List α → Option (List α × List α)
  | 0, _, _ => none
  | n + 1, x, visited =>
    if x ∈ visited then some ([], visited)
    else visitEach (collect next n) (next x) [] (x :: visited)

/-- `y` is one of the nodes or below one. -/
def Below (next : α → List α) (xs : List α) (y : α) : Prop :=
  ∃ x ∈ xs, Relation.ReflTransGen (fun a b => b ∈ next a) x y

variable {next : α → List α}

omit [DecidableEq α] in
theorem Below.mono {xs ys : List α} {y : α} (h : Below next xs y) (hsub : ∀ x ∈ xs, x ∈ ys) :
    Below next ys y := by
  obtain ⟨x, hx, hxy⟩ := h
  exact ⟨x, hsub x hx, hxy⟩

omit [DecidableEq α] in
theorem Below.of_next {x y : α} (h : Below next (next x) y) : Below next [x] y := by
  obtain ⟨z, hz, hzy⟩ := h
  exact ⟨x, List.mem_singleton_self x, Relation.ReflTransGen.head hz hzy⟩

/-- What a search from `xs` has done: `all` is what it collected. -/
structure Explored (next : α → List α) (xs visited all visited' : List α) : Prop where
  keeps : ∀ a ∈ visited, a ∈ visited'
  visits : ∀ x ∈ xs, x ∈ visited'
  /-- All that comes next to a node it visited is visited and collected. -/
  closed : ∀ a ∈ visited', a ∉ visited → ∀ b ∈ next a, b ∈ visited' ∧ b ∈ all

/-! ### What is collected -/

section

variable {visit : α → List α → Option (List α × List α)}
  (hvisit : ∀ x visited r, visit x visited = some r → Explored next [x] visited r.1 r.2)

include hvisit

theorem explored_visitEach {ys all visited : List α} {r : List α × List α}
    (h : visitEach visit ys all visited = some r) :
    Explored next ys visited r.1 r.2 ∧ (∀ a ∈ all, a ∈ r.1) ∧ ∀ y ∈ ys, y ∈ r.1 := by
  induction ys generalizing all visited with
  | nil =>
    cases h
    refine ⟨⟨fun _ ha => ha, ?_, ?_⟩, fun _ ha => ha, ?_⟩
    · simp
    · intro a ha hnot
      exact absurd ha hnot
    · simp
  | cons y ys ih =>
    rw [visitEach, Option.bind_eq_some_iff] at h
    obtain ⟨first, hfirst, h⟩ := h
    have hy := hvisit y visited first hfirst
    obtain ⟨hys, hall, hmem⟩ := ih h
    refine ⟨⟨?_, ?_, ?_⟩, ?_, ?_⟩
    · exact fun a ha => hys.keeps a (hy.keeps a ha)
    · intro x hx
      rcases List.mem_cons.mp hx with rfl | hx
      · exact hys.keeps x (hy.visits x (List.mem_singleton_self x))
      · exact hys.visits x hx
    · -- a node is visited by the first search, or by a later one
      intro a ha hnot b hb
      by_cases hfirst : a ∈ first.2
      · have hclosed := hy.closed a hfirst hnot b hb
        refine ⟨hys.keeps b hclosed.1, hall b ?_⟩
        simp [hclosed.2]
      · exact hys.closed a ha hfirst b hb
    · exact fun a ha => hall a (List.mem_append_left _ ha)
    · intro x hx
      rcases List.mem_cons.mp hx with rfl | hx
      · apply hall
        simp
      · exact hmem x hx

end

variable {n : ℕ} {x : α} {visited : List α} {r : List α × List α}

theorem explored_collect
    (h : collect next n x visited = some r) : Explored next [x] visited r.1 r.2 := by
  induction n generalizing x visited r with
  | zero => cases h
  | succ n ih =>
    rw [collect] at h
    split at h
    · rename_i hx
      cases h
      refine ⟨fun _ ha => ha, ?_, ?_⟩
      · simpa using hx
      · intro a ha hnot
        exact absurd ha hnot
    · obtain ⟨hnext, -, hmem⟩ := explored_visitEach (fun x visited r => ih) h
      have hx : x ∈ r.2 := hnext.keeps x List.mem_cons_self
      refine ⟨?_, ?_, ?_⟩
      · exact fun a ha => hnext.keeps a (List.mem_cons_of_mem x ha)
      · simpa using hx
      · intro a ha hnot b hb
        by_cases hax : a = x
        · rw [hax] at hb
          exact ⟨hnext.visits b hb, hmem b hb⟩
        · have hnot : a ∉ x :: visited := by simp [hax, hnot]
          exact hnext.closed a ha hnot b hb

/-! ### What is collected is below -/

omit [DecidableEq α] in
theorem below_visitEach {visit : α → List α → Option (List α × List α)}
    (hvisit : ∀ x visited r, visit x visited = some r → ∀ y ∈ r.1, Below next [x] y)
    {ys all : List α}
    (h : visitEach visit ys all visited = some r) : ∀ y ∈ r.1, y ∈ all ∨ Below next ys y := by
  induction ys generalizing all visited with
  | nil =>
    cases h
    exact fun y hy => Or.inl hy
  | cons x ys ih =>
    rw [visitEach, Option.bind_eq_some_iff] at h
    obtain ⟨first, hfirst, h⟩ := h
    intro y hy
    rcases ih h y hy with hy | hbelow
    · rcases List.mem_append.mp hy with hy | hy
      · exact Or.inl hy
      · right
        rcases List.mem_cons.mp hy with rfl | hy
        · exact ⟨y, List.mem_cons_self, Relation.ReflTransGen.refl⟩
        · apply (hvisit x visited first hfirst y hy).mono
          simp
    · exact Or.inr (hbelow.mono fun _ hx => List.mem_cons_of_mem x hx)

theorem below_collect (h : collect next n x visited = some r) : ∀ y ∈ r.1, Below next [x] y := by
  induction n generalizing x visited r with
  | zero => cases h
  | succ n ih =>
    rw [collect] at h
    split at h
    · cases h
      simp
    · intro y hy
      rcases below_visitEach (fun x visited r => ih) h y hy with hy | hbelow
      · cases hy
      · exact hbelow.of_next

/-- **Searches that start with nothing visited collect their nodes and all that is below them.** -/
theorem mem_iff_below {xs : List α}
    (h : visitEach (collect next n) xs [] [] = some r) (y : α) : y ∈ r.1 ↔ Below next xs y := by
  obtain ⟨hexplored, -, hmem⟩ := explored_visitEach (fun _ _ _ => explored_collect) h
  constructor
  · intro hy
    rcases below_visitEach (fun _ _ _ => below_collect) h y hy with hy | hbelow
    · cases hy
    · exact hbelow
  · rintro ⟨x, hx, hxy⟩
    have hboth : y ∈ r.2 ∧ y ∈ r.1 := by
      induction hxy with
      | refl => exact ⟨hexplored.visits x hx, hmem x hx⟩
      | tail _ hnext ih => exact hexplored.closed _ ih.1 (by simp) _ hnext
    exact hboth.2

/-! ### Fuel -/

/-- How many of the nodes are not visited. -/
def unvisited (nodes visited : List α) : ℕ := (nodes.filter fun x => x ∉ visited).length

theorem unvisited_le {nodes visited' : List α} (h : ∀ a ∈ visited, a ∈ visited') :
    unvisited nodes visited' ≤ unvisited nodes visited := by
  apply List.Sublist.length_le
  apply List.monotone_filter_right
  intro a ha
  simp only [decide_eq_true_eq] at ha ⊢
  exact fun hmem => ha (h a hmem)

theorem unvisited_cons_lt {nodes : List α} (hx : x ∈ nodes) (hnot : x ∉ visited) :
    unvisited nodes (x :: visited) < unvisited nodes visited := by
  have hfilter : (nodes.filter fun a => a ∉ x :: visited)
      = (nodes.filter fun a => a ∉ visited).filter fun a => a ≠ x := by
    rw [List.filter_filter]
    apply List.filter_congr
    intro a _
    simp
  unfold unvisited
  rw [hfilter, List.length_filter_lt_length_iff_exists]
  exact ⟨x, by simp [hx, hnot], by simp⟩

section

variable {nodes : List α} (hnodes : ∀ a ∈ nodes, ∀ b ∈ next a, b ∈ nodes)

variable {n : ℕ}

theorem exists_visitEach {visit : α → List α → Option (List α × List α)}
    (hends : ∀ x ∈ nodes, ∀ visited, unvisited nodes visited < n → ∃ r, visit x visited = some r)
    (hkeeps : ∀ x visited r, visit x visited = some r → ∀ a ∈ visited, a ∈ r.2)
    {ys all visited : List α} (hys : ∀ y ∈ ys, y ∈ nodes) (hfuel : unvisited nodes visited < n) :
    ∃ r, visitEach visit ys all visited = some r := by
  induction ys generalizing all visited with
  | nil => exact ⟨_, rfl⟩
  | cons y ys ih =>
    rw [List.forall_mem_cons] at hys
    obtain ⟨first, hfirst⟩ := hends y hys.1 visited hfuel
    have hless : unvisited nodes first.2 ≤ unvisited nodes visited :=
      unvisited_le (hkeeps y visited first hfirst)
    rw [visitEach, hfirst]
    exact ih hys.2 (Nat.lt_of_le_of_lt hless hfuel)

include hnodes

theorem exists_collect {x : α} {visited : List α} (hx : x ∈ nodes)
    (hfuel : unvisited nodes visited < n) : ∃ r, collect next n x visited = some r := by
  induction n generalizing x visited with
  | zero => exact absurd hfuel (Nat.not_lt_zero _)
  | succ n ih =>
    rw [collect]
    split
    · exact ⟨_, rfl⟩
    · rename_i hnot
      have hless := unvisited_cons_lt hx hnot
      have hfuel : unvisited nodes (x :: visited) < n := by omega
      apply exists_visitEach _ _ (hnodes x hx) hfuel
      · exact fun y hy visited hfuel => ih hy hfuel
      · exact fun y visited r h => (explored_collect h).keeps

theorem exists_visitEach_collect {xs : List α} (hxs : ∀ x ∈ xs, x ∈ nodes)
    (hfuel : nodes.length < n) : ∃ r, visitEach (collect next n) xs [] [] = some r := by
  have hall : unvisited nodes [] < n := Nat.lt_of_le_of_lt (List.length_filter_le _ _) hfuel
  apply exists_visitEach _ _ hxs hall
  · exact fun x hx visited hfuel => exists_collect hnodes hx hfuel
  · exact fun x visited r h => (explored_collect h).keeps

end

end OpnetNode.SharedSearch
