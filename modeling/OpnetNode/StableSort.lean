import Mathlib.Data.List.Sort

/-!
# What a stable sort shows of the order of its input

`sortDescending key` sorts by descending key and leaves elements of one key in their order.  The
first `m` elements of the result, as far as `f` tells them apart, are the same for every order of
the input exactly if `f` does not tell apart elements of one key of which one may come among the
first `m` (`take_map_sortDescending_iff`).
-/

namespace OpnetNode

variable {α β : Type*}

def sortDescending (key : α → ℕ) (l : List α) : List α := l.insertionSort fun a b => key b ≤ key a

variable (key : α → ℕ)

theorem sortDescending_perm (l : List α) : (sortDescending key l).Perm l :=
  List.perm_insertionSort _ l

theorem sortDescending_pairwise (l : List α) :
    (sortDescending key l).Pairwise fun a b => key b ≤ key a := by
  have htotal : Std.Total fun a b : α => key b ≤ key a := ⟨fun a b => Nat.le_total (key b) (key a)⟩
  have htrans : IsTrans α fun a b : α => key b ≤ key a := ⟨fun _ _ _ hab hbc => hbc.trans hab⟩
  exact List.pairwise_insertionSort _ l

theorem sortDescending_map {γ : Type*} (g : γ → α) (l : List γ) :
    sortDescending key (l.map g) = (sortDescending (fun c => key (g c)) l).map g :=
  (List.map_insertionSort _ _ g l fun _ _ _ _ => Iff.rfl).symm

theorem map_key_sortDescending {l l' : List α} (h : l.Perm l') :
    (sortDescending key l).map key = (sortDescending key l').map key := by
  have hsorted (l : List α) : ((sortDescending key l).map key).Pairwise fun m n : ℕ => n ≤ m :=
    List.pairwise_map.mpr (sortDescending_pairwise key l)
  have hperm := (sortDescending_perm key l).trans (h.trans (sortDescending_perm key l').symm)
  exact List.Perm.eq_of_pairwise (fun m n _ _ hmn hnm => Nat.le_antisymm hnm hmn) (hsorted l)
    (hsorted l') (hperm.map key)

theorem takeWhile_eq_filter {l : List α} (h : l.Pairwise fun a b => key b ≤ key a) (n : ℕ) :
    (l.takeWhile fun a => decide (n < key a)) = l.filter fun a => decide (n < key a) := by
  induction l with
  | nil => rfl
  | cons a l ih =>
    obtain ⟨hfirst, hrest⟩ := List.pairwise_cons.mp h
    by_cases ha : n < key a
    · rw [List.takeWhile_cons_of_pos (by simpa using ha), List.filter_cons_of_pos (by simpa using ha),
        ih hrest]
    · have hnone : l.filter (fun b => decide (n < key b)) = [] := by
        refine List.filter_eq_nil_iff.mpr fun b hb => ?_
        have hle := hfirst b hb
        rw [decide_eq_true_eq]
        omega
      rw [List.takeWhile_cons_of_neg (by simpa using ha), List.filter_cons_of_neg (by simpa using ha),
        hnone]

theorem getElem?_sortDescending_cons (a : α) (l : List α) :
    (sortDescending key (a :: l))[(l.filter fun b => decide (key a < key b)).length]? = some a := by
  have hinsert : sortDescending key (a :: l) =
      (sortDescending key l).takeWhile (fun b => decide (key a < key b)) ++
        a :: (sortDescending key l).dropWhile fun b => decide (key a < key b) := by
    have hnot : (fun b : α => decide (¬ key b ≤ key a)) = fun b => decide (key a < key b) := by
      funext b
      simp
    unfold sortDescending
    rw [List.insertionSort_cons_eq_take_drop, hnot]
  have hlength : ((sortDescending key l).takeWhile fun b => decide (key a < key b)).length =
      (l.filter fun b => decide (key a < key b)).length := by
    rw [takeWhile_eq_filter key (sortDescending_pairwise key l)]
    exact ((sortDescending_perm key l).filter _).length_eq
  rw [hinsert, ← hlength, List.getElem?_append_right (Nat.le_refl _), Nat.sub_self]
  rfl

theorem length_filter_le_of_getElem? {l : List α} {i : ℕ} {a : α}
    (h : (sortDescending key l)[i]? = some a) :
    (l.filter fun b => decide (key a < key b)).length ≤ i := by
  have hperm := ((sortDescending_perm key l).filter fun b =>
    decide (key a < key b)).length_eq
  rw [← hperm, ← List.take_append_drop i (sortDescending key l), List.filter_append]
  obtain ⟨hi, hget⟩ := List.getElem?_eq_some_iff.mp h
  have hdrop : ((sortDescending key l).drop i).filter (fun b => decide (key a < key b)) = [] := by
    have hsorted := (sortDescending_pairwise key l).sublist (List.drop_sublist i _)
    rw [List.drop_eq_getElem_cons hi, hget] at hsorted ⊢
    refine List.filter_eq_nil_iff.mpr fun b hb => ?_
    rw [decide_eq_true_eq, not_lt]
    rcases List.mem_cons.mp hb with rfl | hb
    · exact Nat.le_refl _
    · exact (List.pairwise_cons.mp hsorted).1 b hb
  rw [hdrop, List.append_nil]
  exact (List.length_filter_le _ _).trans (List.length_take_le _ _)

/-- The order of the input shows exactly through elements of one key. -/
theorem take_map_sortDescending_iff [DecidableEq α] (f : α → β) (m : ℕ)
    (l : List α) :
    (∀ l', l.Perm l' →
      ((sortDescending key l').take m).map f = ((sortDescending key l).take m).map f) ↔
      ∀ a ∈ l, ∀ b ∈ l, key a = key b →
        (l.filter fun c => decide (key a < key c)).length < m → f a = f b := by
  constructor
  · intro h a ha b hb hkey hfew
    -- each of the two comes first among its key when it is first in the input
    have hfirst (c : α) (hc : c ∈ l) (hkeys : key a = key c) :
        (((sortDescending key l).take m).map f)[
          (l.filter fun c => decide (key a < key c)).length]? = some (f c) := by
      have hperm := List.perm_cons_erase hc
      have hcount : ((l.erase c).filter fun b => decide (key c < key b)).length =
          (l.filter fun b => decide (key a < key b)).length := by
        rw [hkeys, (hperm.filter _).length_eq, List.filter_cons_of_neg (by simp)]
      have hget := getElem?_sortDescending_cons key c (l.erase c)
      rw [hcount] at hget
      rw [← h _ hperm, List.getElem?_map, List.getElem?_take_of_lt hfew, hget]
      rfl
    have heq := (hfirst a ha rfl).symm.trans (hfirst b hb hkey)
    exact Option.some.inj heq
  · intro h l' hperm
    apply List.ext_getElem?
    intro i
    by_cases him : i < m
    · rw [List.getElem?_map, List.getElem?_map, List.getElem?_take_of_lt him,
        List.getElem?_take_of_lt him]
      have hkeys : ((sortDescending key l')[i]?).map key = ((sortDescending key l)[i]?).map key := by
        rw [← List.getElem?_map, ← List.getElem?_map, map_key_sortDescending key hperm.symm]
      cases ha : (sortDescending key l)[i]? with
      | none =>
        rw [ha, Option.map_none, Option.map_eq_none_iff] at hkeys
        rw [hkeys]
      | some a =>
        rw [ha, Option.map_some, Option.map_eq_some_iff] at hkeys
        obtain ⟨b, hb, hkey⟩ := hkeys
        have hmem : a ∈ l := (sortDescending_perm key l).mem_iff.mp (List.mem_of_getElem? ha)
        have hmem' : b ∈ l := hperm.mem_iff.mpr
          ((sortDescending_perm key l').mem_iff.mp (List.mem_of_getElem? hb))
        have hfew := length_filter_le_of_getElem? key ha
        rw [hb, Option.map_some, Option.map_some,
          h a hmem b hmem' hkey.symm (Nat.lt_of_le_of_lt hfew him)]
    · have hout (s : List α) : ((s.take m).map f)[i]? = none := by
        rw [List.getElem?_eq_none]
        rw [List.length_map, List.length_take]
        omega
      rw [hout, hout]

end OpnetNode
