import OpnetNode.Aggregation
import OpnetNode.Utils.Equiv.FastMap

/-!
# `FastBigIntMap` is a map

The decimals of an integer are digits, with a sign if it is negative.  Different integers have
different ones (`toString_int_injective`), and no name of `Object.prototype` is one of them, so that
every call is plain.

* `refines_inOrder`: the calls refine those on standard maps, and the keys that are there are iterated
  once, in the order in which they were first inserted since they were last deleted.
-/

namespace OpnetNode.FastBigIntMap

open FastMap StandardMap

/-! ### The texts of the keys -/

theorem isDigit_of_mem_repr {n : ℕ} {c : Char} (h : c ∈ n.repr.toList) : c.isDigit = true := by
  rw [Nat.toList_repr] at h
  exact Nat.isDigit_of_mem_toDigits (by decide) (by decide) h

theorem mem_toString_int {n : ℤ} {c : Char} (h : c ∈ (toString n).toList) :
    c.isDigit = true ∨ c = '-' := by
  rw [Int.toString_eq_repr] at h
  cases n with
  | ofNat n => exact Or.inl (isDigit_of_mem_repr h)
  | negSucc n =>
    replace h : c ∈ ("-" ++ (n + 1).repr).toList := h
    rw [String.toList_append, List.mem_append] at h
    rcases h with hsign | hdigit
    · exact Or.inr (List.mem_singleton.mp hsign)
    · exact Or.inl (isDigit_of_mem_repr hdigit)

theorem toString_int_injective : Function.Injective fun n : ℤ => toString n := by
  have hsign : ∀ m n : ℕ, m.repr ≠ "-" ++ n.repr := by
    intro m n heq
    have hmem : '-' ∈ m.repr.toList := by
      rw [heq, String.toList_append]
      exact List.mem_append_left _ (List.mem_singleton.mpr rfl)
    exact absurd (isDigit_of_mem_repr hmem) (by decide)
  intro m n h
  replace h : m.repr = n.repr := by
    rw [← Int.toString_eq_repr, ← Int.toString_eq_repr]
    exact h
  cases m with
  | ofNat m =>
    cases n with
    | ofNat n => exact congrArg Int.ofNat (Aggregation.toString_nat_injective h)
    | negSucc n => exact absurd h (hsign m (n + 1))
  | negSucc m =>
    cases n with
    | ofNat n => exact absurd h.symm (hsign n (m + 1))
    | negSucc n =>
      have hlists := congrArg String.toList h
      replace hlists : ("-" ++ (m + 1).repr).toList = ("-" ++ (n + 1).repr).toList := hlists
      rw [String.toList_append, String.toList_append] at hlists
      have hrepr := String.toList_injective (List.append_cancel_left hlists)
      have hsucc := Aggregation.toString_nat_injective hrepr
      rw [Nat.succ.inj hsucc]

/-- No name of `Object.prototype` is the text of an integer. -/
theorem toString_int_notMem (n : ℤ) : toString n ∉ objectPrototypeNames := by
  have hnames : ∀ name ∈ objectPrototypeNames,
      name.toList.all (fun c => c.isDigit || c = '-') = false := by decide
  intro hmem
  have hall : (toString n).toList.all (fun c => c.isDigit || c = '-') = true := by
    rw [List.all_eq_true]
    intro c hc
    rw [Bool.or_eq_true, decide_eq_true_eq]
    exact mem_toString_int hc
  rw [hnames _ hmem] at hall
  cases hall

/-! ### The calls -/

variable {ι : Type}

theorem plain (maps : ι → FastBigIntMap) (event : ι × MapCall ι ℤ ℤ) : Plain maps event := by
  have hproto : ∀ key : ℤ, toString key ≠ "__proto__" := by
    intro key heq
    have hmem : "__proto__" ∈ objectPrototypeNames := by decide
    exact toString_int_notMem key (heq ▸ hmem)
  obtain ⟨i, c⟩ := event
  cases c with
  | get key => exact Or.inr (toString_int_notMem key)
  | set key value => exact hproto key
  | getOrInsert key defaultValue => exact hproto key
  | getOrInsertComputed key callbackfn => exact hproto key
  | size | has | delete | clear | setAll | entries | keys | values | forEach => trivial

variable [DecidableEq ι]

theorem meets_plain (maps : ι → FastBigIntMap) (events : List (ι × MapCall ι ℤ ℤ)) :
    Meets next Plain maps events := by
  induction events generalizing maps with
  | nil => trivial
  | cons event events ih => exact ⟨plain maps event, fun maps' _ => ih maps'⟩

/-- **`FastBigIntMap` refines a map**: after any calls on any maps, what the calls have returned, and
the keys, sizes and entries in every state are those of standard maps, and an iteration visits each
key that is there once, in the order of their first insertions since their last deletions.  An
iteration is one call. -/
theorem refines_inOrder (events : List (ι × MapCall ι ℤ ℤ)) :
    Refines (fun _ => (new : FastBigIntMap)) (fun _ => JsMap.empty) events ∧
    ∀ i, InOrder (insertions events i) (FastMap.run (fun _ => (new : FastBigIntMap)) events i).keys ∧
      ∀ key, key ∈ (FastMap.run (fun _ => (new : FastBigIntMap)) events i).keys ↔
        (FastMap.run (fun _ => (new : FastBigIntMap)) events i).has key = true := by
  have hmeets := meets_plain (fun _ : ι => (new : FastBigIntMap)) events
  refine ⟨(refines_iff_meets toString_int_injective fun _ => related_new).mpr hmeets, fun i => ?_⟩
  have hrelated := related_run toString_int_injective
    (fun _ : ι => (related_new : Related (new : FastBigIntMap) JsMap.empty)) hmeets i
  have hkeys : (FastMap.run (fun _ => (new : FastBigIntMap)) events i).keys =
      (StandardMap.run (fun _ => JsMap.empty) events i).keys := hrelated.order
  rw [hkeys]
  refine ⟨inOrder_insertions events i, fun key => ?_⟩
  rw [hrelated.has_eq]
  exact JsMap.mem_keys_iff _

end OpnetNode.FastBigIntMap
