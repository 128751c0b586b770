import Mathlib.Data.Finite.Defs
import Mathlib.Data.List.Perm.Basic
import Mathlib.Data.Set.Finite.List
import Mathlib.Logic.Relation
import Mathlib.Order.WellFoundedSet

/-!
# Greedy topological orders

The elements of a list are put in an order in which parents come first and in which each element is
the best of those that are ready, that is, whose parents have come (`IsGreedy`).  Where `better` is
asymmetric there is at most one such order (`IsGreedy.unique`), whatever the order of the list; where
there is no cycle, some element is ready as long as one is left (`exists_ready`).
-/

namespace OpnetNode.Greedy

variable {α : Type*} {parent better : α → α → Prop} {l pre : List α} {a : α}

/-- `p` is a parent of `a` in the list. -/
def ParentIn (parent : α → α → Prop) (l : List α) (p a : α) : Prop := p ∈ l ∧ a ∈ l ∧ parent p a

/-- No element of the list is its own ancestor. -/
def Acyclic (parent : α → α → Prop) (l : List α) : Prop :=
  ∀ a ∈ l, ¬ Relation.TransGen (ParentIn parent l) a a

/-- The parents of the element have come. -/
def Ready (parent : α → α → Prop) (l pre : List α) (a : α) : Prop := ∀ p ∈ l, parent p a → p ∈ pre

/-- A greedy topological order of the list. -/
structure IsGreedy (parent better : α → α → Prop) (l order : List α) : Prop where
  perm : order.Perm l
  ready : ∀ pre a post, order = pre ++ a :: post → Ready parent l pre a
  best : ∀ pre a post, order = pre ++ a :: post → ∀ b ∈ post, Ready parent l pre b → better a b

theorem parentIn_congr {l' : List α} (h : ∀ a, a ∈ l ↔ a ∈ l') :
    ParentIn parent l = ParentIn parent l' := by
  funext p a
  simp only [ParentIn, h]

theorem Ready.congr {l' : List α} (h : Ready parent l pre a) (hl : ∀ b, b ∈ l' → b ∈ l) :
    Ready parent l' pre a :=
  fun p hp hpa => h p (hl p hp) hpa

theorem Ready.append {rest : List α} (h : Ready parent l pre a) : Ready parent l (pre ++ rest) a :=
  fun p hp hparent => List.mem_append_left rest (h p hp hparent)

theorem acyclic_of_rank (rank : α → ℕ) (h : ∀ p ∈ l, ∀ c ∈ l, parent p c → rank p < rank c) :
    Acyclic parent l := by
  intro a _ hcycle
  have hrank : ∀ b, Relation.TransGen (ParentIn parent l) a b → rank a < rank b := by
    intro b hb
    induction hb with
    | single hab => exact h _ hab.1 _ hab.2.1 hab.2.2
    | tail _ hbc ih => exact ih.trans (h _ hbc.1 _ hbc.2.1 hbc.2.2)
  exact absurd (hrank a hcycle) (Nat.lt_irrefl _)

/-! ### Beginnings -/

/-- The beginning of a greedy order: each element was ready, and the best of those that were and had
not come. -/
def IsGreedyStart (parent better : α → α → Prop) (l emitted : List α) : Prop :=
  ∀ pre a post, emitted = pre ++ a :: post → Ready parent l pre a ∧
    ∀ b ∈ l, b ∉ pre → b ≠ a → Ready parent l pre b → better a b

theorem IsGreedyStart.nil : IsGreedyStart parent better l [] := by
  intro pre a post heq
  exact absurd heq (by simp)

theorem IsGreedyStart.concat {emitted : List α} (h : IsGreedyStart parent better l emitted)
    (hready : Ready parent l emitted a)
    (hbest : ∀ b ∈ l, b ∉ emitted → b ≠ a → Ready parent l emitted b → better a b) :
    IsGreedyStart parent better l (emitted ++ [a]) := by
  intro pre x post heq
  rcases List.eq_nil_or_concat post with rfl | ⟨post', y, rfl⟩
  · obtain ⟨rfl, hx⟩ := List.append_inj' heq rfl
    obtain rfl : a = x := by simpa using hx
    exact ⟨hready, hbest⟩
  · have heq' : emitted ++ [a] = (pre ++ x :: post') ++ [y] := by simpa using heq
    exact h pre x post' (List.append_inj' heq' rfl).1

theorem IsGreedyStart.isGreedy {order : List α} (h : IsGreedyStart parent better l order)
    (hnodup : l.Nodup) (hperm : order.Perm l) : IsGreedy parent better l order where
  perm := hperm
  ready pre a post heq := (h pre a post heq).1
  best pre a post heq b hb hready := by
    have hdistinct := hperm.nodup_iff.mpr hnodup
    rw [heq] at hdistinct
    obtain ⟨-, hrest, hdisjoint⟩ := List.nodup_append.mp hdistinct
    refine (h pre a post heq).2 b ?_ ?_ ?_ hready
    · exact hperm.mem_iff.mp (by simp [heq, hb])
    · exact fun hpre => hdisjoint b hpre b (List.mem_cons_of_mem a hb) rfl
    · rintro rfl
      exact (List.nodup_cons.mp hrest).1 hb

/-! ### Uniqueness -/

theorem IsGreedy.rest_unique (hasymm : ∀ a b, better a b → ¬ better b a) {order order' : List α}
    (h : IsGreedy parent better l order) (h' : IsGreedy parent better l order')
    (pre rest rest' : List α) (horder : order = pre ++ rest)
    (horder' : order' = pre ++ rest') : rest = rest' := by
  have hperm : (pre ++ rest).Perm (pre ++ rest') := by
    rw [← horder, ← horder']
    exact h.perm.trans h'.perm.symm
  have hrest : rest.Perm rest' := (List.perm_append_left_iff pre).mp hperm
  induction rest generalizing pre rest' with
  | nil => exact (List.nil_perm.mp hrest).symm
  | cons a rest ih =>
    cases rest' with
    | nil => exact absurd (List.perm_nil.mp hrest) (List.cons_ne_nil a rest)
    | cons b rest' =>
      have hab : a = b := by
        by_contra hne
        have hb : b ∈ rest := (List.mem_cons.mp (hrest.mem_iff.mpr List.mem_cons_self)).resolve_left
          fun heq => hne heq.symm
        have ha : a ∈ rest' :=
          (List.mem_cons.mp (hrest.mem_iff.mp List.mem_cons_self)).resolve_left hne
        have hbetter : better a b := h.best pre a rest horder b hb (h'.ready pre b rest' horder')
        have hbetter' : better b a := h'.best pre b rest' horder' a ha (h.ready pre a rest horder)
        exact hasymm a b hbetter hbetter'
      subst hab
      have htail := ih (pre ++ [a]) rest' (by simp [horder]) (by simp [horder'])
        (by simpa using hperm) ((List.perm_cons a).mp hrest)
      rw [htail]

theorem IsGreedy.unique (hasymm : ∀ a b, better a b → ¬ better b a) {order order' : List α}
    (h : IsGreedy parent better l order) (h' : IsGreedy parent better l order') : order = order' :=
  h.rest_unique hasymm h' [] order order' rfl rfl

/-! ### Existence -/

theorem isStrictOrder_ancestry (h : Acyclic parent l) :
    IsStrictOrder α (Relation.TransGen (ParentIn parent l)) where
  irrefl a hcycle := by
    obtain ⟨c, -, hc⟩ := Relation.TransGen.tail'_iff.mp hcycle
    exact h a hc.2.1 hcycle
  trans _ _ _ := Relation.TransGen.trans

theorem exists_ready (h : Acyclic parent l) (hleft : ∃ a ∈ l, a ∉ pre) :
    ∃ a ∈ l, a ∉ pre ∧ Ready parent l pre a := by
  have := isStrictOrder_ancestry h
  have hfinite : {a | a ∈ l ∧ a ∉ pre}.Finite := l.finite_toSet.subset fun _ ha => ha.1
  have hwf : {a | a ∈ l ∧ a ∉ pre}.WellFoundedOn (Relation.TransGen (ParentIn parent l)) :=
    hfinite.wellFoundedOn
  obtain ⟨a₀, ha₀, hnot₀⟩ := hleft
  by_contra hnone
  -- An element that is left has a parent that is left, and so on for ever.
  refine hwf.induction (P := fun _ => False) ⟨ha₀, hnot₀⟩ fun x hx ih => ?_
  obtain ⟨p, hp, hparent, hnot⟩ : ∃ p ∈ l, parent p x ∧ p ∉ pre := by
    by_contra hready
    refine hnone ⟨x, hx.1, hx.2, fun p hp hpa => ?_⟩
    by_contra hnot
    exact hready ⟨p, hp, hpa, hnot⟩
  exact ih p ⟨hp, hnot⟩ (Relation.TransGen.single ⟨hp, hx.1, hparent⟩)

end OpnetNode.Greedy
