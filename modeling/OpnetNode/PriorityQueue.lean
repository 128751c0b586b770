import Mathlib.Data.Int.Notation
import Mathlib.Data.List.Perm.Basic
import Mathlib.Tactic.Common
import OpnetNode.Proc

/-!
# Priority queues whose comparator is a procedure

A priority queue is given by its operations (`PriorityQueue`); its comparator may read and write a
state, and throw.  `Lawful` says what is documented of such a queue: while the comparator decides a
strict weak order (`DecidesOrder`), an element enqueued is one more among the items, and an element
dequeued is a minimum of the items.  Whatever the comparator does, nothing comes out of the queue that
was not put in (`Conserves`).  `scanQueue`, a list searched for its minimum, is such a queue
(`lawful_scanQueue`, `conserves_scanQueue`).
-/

namespace OpnetNode

open Proc

/-- A comparator: negative for "before", positive for "after". -/
abbrev Comparator (σ ε α : Type) := α → α → Proc σ ε ℤ

/-- The operations of a priority queue. -/
structure PriorityQueue (σ ε α : Type) where
  Queue : Type
  empty : Queue
  isEmpty : Queue → Bool
  enqueue : Comparator σ ε α → α → Queue → Proc σ ε Queue
  dequeue : Comparator σ ε α → Queue → Proc σ ε (Option α × Queue)

namespace PriorityQueue

variable {σ ε α : Type}

/-- On elements with `S` and in states with `I`, the comparator returns what the strict weak order
`lt` says, and keeps `I`. -/
structure DecidesOrder (I : σ → Prop) (S : α → Prop) (compare : Comparator σ ε α)
    (lt : α → α → Prop) : Prop where
  returns : ∀ a b s, S a → S b → I s →
    ∃ c s', compare a b s = (.ok c, s') ∧ I s' ∧ (c < 0 ↔ lt a b) ∧ (0 < c ↔ lt b a)
  asymm : ∀ a b, S a → S b → lt a b → ¬ lt b a
  negTrans : ∀ a b c, S a → S b → S c → lt a c → lt a b ∨ lt b c

/-- What is documented of a priority queue.  `items` are the elements in the queue; `heap` is its own
invariant, which its operations keep while they are given comparators of one order. -/
structure Lawful (Q : PriorityQueue σ ε α) where
  items : Q.Queue → List α
  heap : (α → α → Prop) → Q.Queue → Prop
  items_empty : items Q.empty = []
  heap_empty : ∀ lt, heap lt Q.empty
  isEmpty_iff : ∀ q, Q.isEmpty q = true ↔ items q = []
  enqueue : ∀ {I S compare lt}, DecidesOrder I S compare lt → ∀ a q s, S a → (∀ b ∈ items q, S b) →
    heap lt q → I s →
    ∃ q' s', Q.enqueue compare a q s = (.ok q', s') ∧ I s' ∧ heap lt q' ∧
      (items q').Perm (a :: items q)
  dequeue : ∀ {I S compare lt}, DecidesOrder I S compare lt → ∀ q s, (∀ b ∈ items q, S b) →
    heap lt q → items q ≠ [] → I s →
    ∃ a q' s', Q.dequeue compare q s = (.ok (some a, q'), s') ∧ I s' ∧ heap lt q' ∧
      (items q).Perm (a :: items q') ∧ ∀ b ∈ items q', ¬ lt b a

/-- Nothing comes out of the queue that was not put in, whatever the comparator does. -/
structure Conserves (Q : PriorityQueue σ ε α) where
  Holds : (α → Prop) → Q.Queue → Prop
  holds_empty : ∀ P, Holds P Q.empty
  enqueue : ∀ {P} compare {a q}, P a → Holds P q → Returns (Holds P) (Q.enqueue compare a q)
  dequeue : ∀ {P} compare {q}, Holds P q →
    Returns (fun r => (∀ a ∈ r.1, P a) ∧ Holds P r.2) (Q.dequeue compare q)

/-! ### A list searched for its minimum -/

/-- Keep the smaller of the best element so far and the next one. -/
def keepSmaller (compare : Comparator σ ε α) (best : α × List α) (a : α) :
    Proc σ ε (α × List α) := do
  let c ← compare a best.1
  return if c < 0 then (a, best.1 :: best.2) else (best.1, a :: best.2)

/-- The queue that searches its list for a minimum. -/
def scanQueue (σ ε α : Type) : PriorityQueue σ ε α where
  Queue := List α
  empty := []
  isEmpty q := q.isEmpty
  enqueue _ a q := pure (a :: q)
  dequeue compare
    | [] => pure (none, [])
    | a :: q => do
      let best ← foldEach (keepSmaller compare) (a, []) q
      return (some best.1, best.2)

variable {I : σ → Prop} {S : α → Prop} {compare : Comparator σ ε α} {lt : α → α → Prop}

theorem foldEach_keepSmaller (h : DecidesOrder I S compare lt) (l : List α) (hl : ∀ b ∈ l, S b)
    (best : α × List α) (hS : S best.1) (hrest : ∀ b ∈ best.2, S b ∧ ¬ lt b best.1) (s : σ)
    (hI : I s) :
    ∃ best' s', foldEach (keepSmaller compare) best l s = (.ok best', s') ∧ I s' ∧
      (best.1 :: best.2 ++ l).Perm (best'.1 :: best'.2) ∧ ∀ b ∈ best'.2, ¬ lt b best'.1 := by
  induction l generalizing best s with
  | nil =>
    refine ⟨best, s, rfl, hI, ?_, fun b hb => (hrest b hb).2⟩
    rw [List.append_nil]
  | cons a l ih =>
    have ha : S a := hl a List.mem_cons_self
    have hl' : ∀ b ∈ l, S b := fun b hb => hl b (List.mem_cons_of_mem a hb)
    obtain ⟨c, s₁, hrun, hI₁, hneg, -⟩ := h.returns a best.1 s ha hS hI
    have hstep : foldEach (keepSmaller compare) best (a :: l) s =
        foldEach (keepSmaller compare)
          (if c < 0 then (a, best.1 :: best.2) else (best.1, a :: best.2)) l s₁ := by
      show bindResult _ (bindResult _ (compare a best.1 s)) = _
      rw [hrun]
      rfl
    by_cases hc : c < 0
    · have hlt : lt a best.1 := hneg.mp hc
      have hrest' : ∀ b ∈ best.1 :: best.2, S b ∧ ¬ lt b a := by
        intro b hb
        rcases List.mem_cons.mp hb with rfl | hb
        · exact ⟨hS, h.asymm a best.1 ha hS hlt⟩
        · obtain ⟨hSb, hnot⟩ := hrest b hb
          refine ⟨hSb, fun hba => ?_⟩
          -- An element before `a` would come before the best one so far.
          rcases h.negTrans b best.1 a hSb hS ha hba with hbad | hbad
          · exact hnot hbad
          · exact h.asymm a best.1 ha hS hlt hbad
      obtain ⟨best', s', hrun', hI', hperm, hmin⟩ := ih hl' (a, best.1 :: best.2) ha hrest' s₁ hI₁
      refine ⟨best', s', by rw [hstep, if_pos hc, hrun'], hI', ?_, hmin⟩
      exact List.perm_middle.trans hperm
    · have hrest' : ∀ b ∈ a :: best.2, S b ∧ ¬ lt b best.1 :=
        List.forall_mem_cons.mpr ⟨⟨ha, fun hlt => hc (hneg.mpr hlt)⟩, hrest⟩
      obtain ⟨best', s', hrun', hI', hperm, hmin⟩ := ih hl' (best.1, a :: best.2) hS hrest' s₁ hI₁
      refine ⟨best', s', by rw [hstep, if_neg hc, hrun'], hI', ?_, hmin⟩
      exact (List.Perm.cons _ List.perm_middle).trans hperm

/-- The searched list is a priority queue. -/
def lawful_scanQueue : (scanQueue σ ε α).Lawful where
  items q := q
  heap _ _ := True
  items_empty := rfl
  heap_empty _ := trivial
  isEmpty_iff q := List.isEmpty_iff
  enqueue _ a q s _ _ _ hI := ⟨a :: q, s, rfl, hI, trivial, List.Perm.refl _⟩
  dequeue h q s hS _ hne hI := by
    cases q with
    | nil => exact absurd rfl hne
    | cons a q =>
      obtain ⟨best, s', hrun, hI', hperm, hmin⟩ := foldEach_keepSmaller h q
        (fun b hb => hS b (List.mem_cons_of_mem a hb)) (a, []) (hS a List.mem_cons_self)
        (fun b hb => absurd hb List.not_mem_nil) s hI
      refine ⟨best.1, best.2, s', ?_, hI', trivial, hperm, hmin⟩
      show bindResult _ (foldEach (keepSmaller _) (a, []) q s) = _
      rw [hrun]
      rfl

theorem returns_keepSmaller (compare : Comparator σ ε α) {P : α → Prop} {best : α × List α} {a : α}
    (hbest : P best.1 ∧ ∀ b ∈ best.2, P b) (ha : P a) :
    Returns (fun best : α × List α => P best.1 ∧ ∀ b ∈ best.2, P b) (keepSmaller compare best a) := by
  apply returns_bind_any
  intro c
  apply returns_pure
  split
  · exact ⟨ha, List.forall_mem_cons.mpr hbest⟩
  · exact ⟨hbest.1, List.forall_mem_cons.mpr ⟨ha, hbest.2⟩⟩

theorem returns_dequeue_scanQueue (compare : Comparator σ ε α) {P : α → Prop} {q : List α}
    (hq : ∀ a ∈ q, P a) :
    Returns (fun r : Option α × List α => (∀ a ∈ r.1, P a) ∧ ∀ a ∈ r.2, P a)
      ((scanQueue σ ε α).dequeue compare q) := by
  cases q with
  | nil =>
    apply returns_pure
    exact ⟨fun a ha => absurd ha (Option.not_mem_none a), hq⟩
  | cons a q =>
    show Returns _ _
    have hfold : Returns (fun best : α × List α => P best.1 ∧ ∀ b ∈ best.2, P b)
        (foldEach (keepSmaller compare) (a, []) q) := by
      refine returns_foldEach ?_ ⟨hq a List.mem_cons_self, fun b hb => absurd hb List.not_mem_nil⟩
      intro best b hb hbest
      exact returns_keepSmaller compare hbest (hq b (List.mem_cons_of_mem a hb))
    refine returns_bind hfold fun best hbest => returns_pure ⟨?_, hbest.2⟩
    intro b hb
    cases hb
    exact hbest.1

/-- The searched list conserves its elements. -/
def conserves_scanQueue : (scanQueue σ ε α).Conserves where
  Holds P q := ∀ a : α, List.Mem a q → P a
  holds_empty _ _ ha := by cases ha
  enqueue _ _ _ ha hq := returns_pure (List.forall_mem_cons.mpr ⟨ha, hq⟩)
  dequeue compare _ hq := returns_dequeue_scanQueue compare hq

end PriorityQueue

end OpnetNode
