import Mathlib.Data.List.Dedup
import Mathlib.Data.List.Nodup

/-!
# Stages of an aggregation

The stages of a pipeline are functions on lists of documents, which come in the order the query meets
them.

* `limit`: `$limit`, which refuses 0.
* `unwind`: `$unwind`, a document for each element of an array field.
* `distinct`: `$group` with nothing but an `_id`.
* `truthy`: what an expression counts as where a condition is asked for.
* `joined_injective`: a text and a number joined by a colon, as keys are built from the results.
-/

namespace OpnetNode.Aggregation

variable {α β : Type*}

/-- The first `n` documents. -/
def limit (n : ℕ) (docs : List α) : Except String (List α) :=
  if n = 0 then .error "the limit must be positive" else .ok (docs.take n)

def unwind (field : α → List β) (docs : List α) : List (α × β) :=
  docs.flatMap fun d => (field d).map fun b => (d, b)

/-- The groups, in an order that nothing relies on. -/
def distinct [DecidableEq α] (docs : List α) : List α := docs.dedup

/-- A missing field and 0 count as false. -/
def truthy : Option ℕ → Bool
  | none => false
  | some n => n ≠ 0

theorem mem_unwind {field : α → List β} {docs : List α} {d : α} {b : β} :
    (d, b) ∈ unwind field docs ↔ d ∈ docs ∧ b ∈ field d := by
  simp only [unwind, List.mem_flatMap, List.mem_map, Prod.mk.injEq]
  constructor
  · rintro ⟨e, he, c, hc, rfl, rfl⟩
    exact ⟨he, hc⟩
  · rintro ⟨hd, hb⟩
    exact ⟨d, hd, b, hb, rfl, rfl⟩

theorem mem_distinct [DecidableEq α] {docs : List α} {d : α} : d ∈ distinct docs ↔ d ∈ docs :=
  List.mem_dedup

theorem nodup_distinct [DecidableEq α] (docs : List α) : (distinct docs).Nodup :=
  List.nodup_dedup docs

theorem limit_eq_ok {n : ℕ} {docs taken : List α} :
    limit n docs = .ok taken ↔ 0 < n ∧ docs.take n = taken := by
  unfold limit
  by_cases hn : n = 0
  · simp [hn]
  · have hpos : 0 < n := Nat.pos_of_ne_zero hn
    simp [hn, hpos]

/-! ### Joined keys -/

theorem append_cons_inj {a : α} {l l' rest rest' : List α} (hl : a ∉ l) (hl' : a ∉ l')
    (h : l ++ a :: rest = l' ++ a :: rest') : l = l' ∧ rest = rest' := by
  induction l generalizing l' with
  | nil =>
    cases l' with
    | nil => exact ⟨rfl, (List.cons.inj h).2⟩
    | cons b l' =>
      have hab : a = b := (List.cons.inj h).1
      exact absurd (hab ▸ List.mem_cons_self) hl'
  | cons b l ih =>
    cases l' with
    | nil =>
      have hba : b = a := (List.cons.inj h).1
      exact absurd (hba ▸ List.mem_cons_self) hl
    | cons b' l' =>
      obtain ⟨rfl, htail⟩ := List.cons.inj h
      obtain ⟨rfl, hrest⟩ := ih (fun hmem => hl (List.mem_cons_of_mem b hmem))
        (fun hmem => hl' (List.mem_cons_of_mem b hmem)) htail
      exact ⟨rfl, hrest⟩

theorem colon_notMem_toString (n : ℕ) : ':' ∉ (toString n).toList := by
  rw [Nat.toString_eq_repr, Nat.toList_repr]
  intro hmem
  have hdigit := Nat.isDigit_of_mem_toDigits (by decide) (by decide) hmem
  exact absurd hdigit (by decide)

theorem toString_nat_injective {m n : ℕ} (h : toString m = toString n) : m = n := by
  have hdigits : Nat.toDigits 10 m = Nat.toDigits 10 n := by
    have hlists := congrArg String.toList h
    rwa [Nat.toString_eq_repr, Nat.toString_eq_repr, Nat.toList_repr, Nat.toList_repr] at hlists
  rw [← Nat.ofDigitChars_ten_toDigits (n := m), hdigits, Nat.ofDigitChars_ten_toDigits]

theorem joined_injective {s t : String} {m n : ℕ}
    (h : s ++ ":" ++ toString m = t ++ ":" ++ toString n) : s = t ∧ m = n := by
  have hno : ∀ k : ℕ, ':' ∉ (toString k).toList.reverse := by
    intro k hk
    exact colon_notMem_toString k (List.mem_reverse.mp hk)
  have hlists : (toString m).toList.reverse ++ ':' :: s.toList.reverse
      = (toString n).toList.reverse ++ ':' :: t.toList.reverse := by
    have hreversed := congrArg (fun x : String => x.toList.reverse) h
    simpa using hreversed
  obtain ⟨hnumber, htext⟩ := append_cons_inj (hno m) (hno n) hlists
  have htext := String.toList_injective (List.reverse_injective htext)
  have hnumber := String.toList_injective (List.reverse_injective hnumber)
  exact ⟨htext, toString_nat_injective hnumber⟩

end OpnetNode.Aggregation
