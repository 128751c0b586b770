import Mathlib.Algebra.Order.Ring.Int
import Mathlib.Data.List.Nodup
import Mathlib.Data.Option.Basic
import Mathlib.Tactic.Tauto

/-!
# Document collections

A document store, reduced to what its commands and queries can observe.

* `Collection α`: the documents of a collection in natural order, with the bulk commands
  `deleteMany` and `updateMany`, the query `find` and the single-document `upsertOne`.
* `IndexedCollection key`: a collection with a unique index on `key`; the documents carry the proof
  that no key occurs twice, so that `lookup` determines the collection's content and every command
  can be read off pointwise (`lookup_deleteMany`, `lookup_updateMany`, `lookup_upsert`).
* `HeightRange.selects`: the filter on a height field that a document may lack, and
  `selects_atLeast_or_between`, by which a downward walk of half-open ranges adds up to one range.
-/

namespace OpnetNode

/-- A document collection: its documents in natural order. -/
abbrev Collection (α : Type*) := List α

namespace Collection

variable {α : Type*}

/-- Remove every document that matches the filter. -/
def deleteMany (p : α → Bool) (c : Collection α) : Collection α := c.filter fun d => !p d

/-- Rewrite every document that matches the filter. -/
def updateMany (p : α → Bool) (f : α → α) (c : Collection α) : Collection α :=
  c.map fun d => if p d then f d else d

/-- Rewrite the first document that matches the filter, or insert `new` if there is none. -/
def upsertOne (p : α → Bool) (f : α → α) (new : α) : Collection α → Collection α
  | [] => [new]
  | d :: c => if p d then f d :: c else d :: upsertOne p f new c

variable {p : α → Bool} {c : Collection α}

theorem mem_deleteMany {d : α} : d ∈ deleteMany p c ↔ d ∈ c ∧ p d = false := by
  simp [deleteMany]

variable {f : α → α} {new : α}

theorem upsertOne_of_forall_not (h : ∀ d ∈ c, p d = false) : upsertOne p f new c = c ++ [new] := by
  induction c with
  | nil => rfl
  | cons d c ih =>
    have hd : p d = false := h d List.mem_cons_self
    have hc : ∀ d' ∈ c, p d' = false := fun d' hd' => h d' (List.mem_cons_of_mem d hd')
    simp [upsertOne, hd, ih hc]

variable {q : α → Bool}

theorem upsertOne_congr (h : ∀ d ∈ c, p d = q d) : upsertOne p f new c = upsertOne q f new c := by
  induction c with
  | nil => rfl
  | cons d c ih =>
    rw [List.forall_mem_cons] at h
    rw [upsertOne, upsertOne, h.1, ih h.2]

theorem mem_upsertOne {d' : α}
    (hany : c.any p) (h : d' ∈ upsertOne p f new c) : d' ∈ c ∨ ∃ d ∈ c, p d ∧ d' = f d := by
  induction c with
  | nil => cases hany
  | cons d c ih =>
    rw [Collection.upsertOne] at h
    by_cases hd : p d
    · simp only [hd, if_true, List.mem_cons] at h
      rcases h with rfl | h
      · exact Or.inr ⟨d, List.mem_cons_self, hd, rfl⟩
      · exact Or.inl (List.mem_cons_of_mem d h)
    · simp only [hd, Bool.false_eq_true, if_false, List.mem_cons] at h
      simp only [List.any_cons, hd, Bool.false_or] at hany
      rcases h with rfl | h
      · exact Or.inl List.mem_cons_self
      · rcases ih hany h with h | ⟨e, he, hpe, rfl⟩
        · exact Or.inl (List.mem_cons_of_mem d h)
        · exact Or.inr ⟨e, List.mem_cons_of_mem d he, hpe, rfl⟩

/-- An upsert that writes documents on which `q` answers `b`, over one on which it did already. -/
theorem any_upsertOne {b : Bool} (hf : ∀ d, q (f d) = b)
    (hnew : q new = b) (hp : ∀ d, p d → q d = b) (c : Collection α) :
    (upsertOne p f new c).any q = (b || c.any q) := by
  induction c with
  | nil => simp [upsertOne, hnew]
  | cons d c ih =>
    rw [upsertOne]
    by_cases hd : p d
    · have hq : q d = b := hp d hd
      rw [if_pos hd, List.any_cons, List.any_cons, hf, hq, ← Bool.or_assoc, Bool.or_self]
    · rw [if_neg hd, List.any_cons, List.any_cons, ih, Bool.or_left_comm]

theorem forall_mem_upsertOne {P : α → Prop}
    (h : ∀ d ∈ c, P d) (hf : ∀ d, p d → P d → P (f d)) (hnew : P new) :
    ∀ d ∈ upsertOne p f new c, P d := by
  induction c with
  | nil => simpa [upsertOne] using hnew
  | cons d c ih =>
    rw [List.forall_mem_cons] at h
    rw [upsertOne]
    split
    · rename_i hd
      exact List.forall_mem_cons.mpr ⟨hf d hd h.1, h.2⟩
    · exact List.forall_mem_cons.mpr ⟨h.1, ih h.2⟩

theorem exists_mem_upsertOne {d : α}
    (h : d ∈ c) : d ∈ upsertOne p f new c ∨ f d ∈ upsertOne p f new c := by
  induction c with
  | nil => cases h
  | cons e c ih =>
    rw [Collection.upsertOne]
    by_cases he : p e
    · simp only [he, if_true, List.mem_cons]
      rcases List.mem_cons.mp h with rfl | h
      · exact Or.inr (Or.inl rfl)
      · exact Or.inl (Or.inr h)
    · simp only [he, Bool.false_eq_true, if_false, List.mem_cons]
      rcases List.mem_cons.mp h with rfl | h
      · exact Or.inl (Or.inl rfl)
      · rcases ih h with h | h
        · exact Or.inl (Or.inr h)
        · exact Or.inr (Or.inr h)

/-- An upsert that found a document to rewrite keeps what `f` reads, if `set` does. -/
theorem map_upsertOne_of_any {β : Type*} {set : α → α} {f : α → β}
    (hset : ∀ d, f (set d) = f d) (hany : c.any p) :
    (upsertOne p set new c).map f = c.map f := by
  induction c with
  | nil => cases hany
  | cons d c ih =>
    unfold upsertOne
    by_cases hd : p d
    · simp [hd, hset]
    · have hany : c.any p := by simpa [hd] using hany
      simp [hd, ih hany]

/-- An upsert by key changes no key: it adds `k` at the end if no document had it. -/
theorem map_key_upsertOne {κ : Type*} [DecidableEq κ] {key : α → κ} {k : κ} {set : α → α}
    (hset : ∀ d, key (set d) = key d) (hnew : key new = k) (c : Collection α) :
    (upsertOne (fun d => key d = k) set (set new) c).map key
      = if k ∈ c.map key then c.map key else c.map key ++ [k] := by
  induction c with
  | nil => simp [upsertOne, hset, hnew]
  | cons d c ih =>
    unfold upsertOne
    by_cases hd : key d = k
    · simp [hd, hset]
    · have hd' : k ≠ key d := fun h => hd h.symm
      simp only [hd, decide_false, Bool.false_eq_true, if_false, List.map_cons, List.mem_cons, hd',
        false_or, ih]
      split <;> simp

/-- A filter that keeps, with a document that `p` matches, those that `p` matches before it: the first
match is the same, or is dropped with all the others. -/
theorem find?_filter_of_pairwise (h : c.Pairwise fun d d' => p d → p d' → q d' → q d) :
    (c.filter q).find? p = (c.find? p).filter q := by
  induction c with
  | nil => rfl
  | cons d c ih =>
    rw [List.pairwise_cons] at h
    rw [List.filter_cons, List.find?_cons]
    by_cases hq : q d
    · by_cases hp : p d
      · simp [hp, hq, Option.filter]
      · simpa [hp, hq] using ih h.2
    · by_cases hp : p d
      · -- nothing after `d` that `p` matches is kept
        have hnone : (c.filter q).find? p = none := by
          rw [List.find?_eq_none]
          intro d' hd' hp'
          obtain ⟨hd', hq'⟩ := List.mem_filter.mp hd'
          exact hq (h.1 d' hd' hp hp' hq')
        simp [hp, hq, hnone, Option.filter]
      · simpa [hp, hq] using ih h.2

theorem deleteMany_deleteMany (p q : α → Bool) (c : Collection α) :
    deleteMany p (deleteMany q c) = deleteMany (fun d => q d || p d) c := by
  unfold deleteMany
  rw [List.filter_filter]
  apply List.filter_congr
  intro d _
  dsimp only
  rw [Bool.not_or, Bool.and_comm]

theorem updateMany_deleteMany_comm (h : ∀ d, p (f d) = p d)
    (c : Collection α) : updateMany q f (deleteMany p c) = deleteMany p (updateMany q f c) := by
  unfold updateMany deleteMany
  rw [List.filter_map]
  congr 1
  apply List.filter_congr
  intro d _
  by_cases hq : q d
  · simp [hq, h]
  · simp [hq]

theorem updateMany_updateMany (h : ∀ d, p (f d) = false) (c : Collection α) :
    updateMany p f (updateMany q f c) = updateMany (fun d => q d || p d) f c := by
  unfold updateMany
  rw [List.map_map]
  apply List.map_congr_left
  intro d _
  by_cases hq : q d
  · simp [hq, h]
  · simp [hq]

theorem deleteMany_eq_self (h : c.any p = false) : c.deleteMany p = c := by
  unfold deleteMany
  rw [List.filter_eq_self]
  intro d hd
  rw [List.any_eq_false] at h
  simpa using h d hd

theorem updateMany_eq_self (h : c.any p = false) : c.updateMany p f = c := by
  unfold updateMany
  rw [List.any_eq_false] at h
  refine (List.map_congr_left fun d hd => ?_).trans (List.map_id c)
  have hp : p d = false := by simpa using h d hd
  simp [hp]

end Collection

/-- The heights a command covers: everything from one height on, or a half-open range. -/
inductive HeightRange where
  | atLeast (lo : ℤ)
  | between (lo hi : ℤ)
  deriving DecidableEq, Repr

namespace HeightRange

def contains : HeightRange → ℕ → Bool
  | .atLeast lo, height => decide (lo ≤ (height : ℤ))
  | .between lo hi, height => decide (lo ≤ (height : ℤ)) && decide ((height : ℤ) < hi)

/-- The filter on a height field; a document that lacks the field does not match. -/
def selects {α : Type*} (range : HeightRange) (height : α → Option ℕ) (d : α) : Bool :=
  (height d).any range.contains

/-- `[lo, hi)` and everything from `hi` on add up to everything from `lo` on. -/
theorem selects_atLeast_or_between {α : Type*} (height : α → Option ℕ) {lo hi : ℤ} (h : lo ≤ hi)
    (d : α) : ((atLeast hi).selects height d || (between lo hi).selects height d)
      = (atLeast lo).selects height d := by
  unfold selects
  cases height d with
  | none => rfl
  | some n =>
    simp only [Option.any_some, contains]
    by_cases h1 : hi ≤ (n : ℤ)
    · have h2 : lo ≤ (n : ℤ) := le_trans h h1
      simp [h1, h2]
    · have h3 : (n : ℤ) < hi := not_le.mp h1
      simp [h1, h3]

theorem selects_atLeast {α : Type*} (height : α → Option ℕ) (b : ℕ) (d : α) :
    (atLeast b).selects height d = (height d).any fun h => decide (b ≤ h) := by
  unfold selects contains
  simp

end HeightRange

/-- A collection with a unique index on `key`. -/
structure IndexedCollection {α κ : Type*} (key : α → κ) where
  /-- The documents, in natural order. -/
  docs : Collection α
  /-- The index is unique. -/
  nodup : (docs.map key).Nodup

namespace IndexedCollection

variable {α κ : Type*} {key : α → κ}

variable {c : IndexedCollection key}

@[ext] theorem ext {c' : IndexedCollection key} (h : c.docs = c'.docs) : c = c' := by
  cases c
  cases c'
  cases h
  rfl

def empty : IndexedCollection key := ⟨[], List.nodup_nil⟩

/-- Remove every document that matches the filter. -/
def deleteMany (p : α → Bool) (c : IndexedCollection key) : IndexedCollection key where
  docs := c.docs.deleteMany p
  nodup := c.nodup.sublist (List.filter_sublist.map key)

/-- Rewrite every document that matches the filter by a function that keeps the key. -/
def updateMany (p : α → Bool) (f : α → α) (hf : ∀ d, key (f d) = key d)
    (c : IndexedCollection key) : IndexedCollection key where
  docs := c.docs.updateMany p f
  nodup := by
    have hmap : (c.docs.updateMany p f).map key = c.docs.map key := by
      unfold Collection.updateMany
      rw [List.map_map]
      apply List.map_congr_left
      intro d _
      by_cases hd : p d
      · simp [hd, hf]
      · simp [hd]
    rw [hmap]
    exact c.nodup

variable [DecidableEq κ]

def lookup (k : κ) (c : IndexedCollection key) : Option α := c.docs.find? fun d => key d = k

@[simp] theorem lookup_empty (k : κ) : (empty : IndexedCollection key).lookup k = none := rfl

variable {d : α}

theorem mem_docs_of_lookup {k : κ} (h : c.lookup k = some d) : d ∈ c.docs ∧ key d = k :=
  ⟨List.mem_of_find?_eq_some h, by simpa using List.find?_some h⟩

theorem lookup_of_mem (h : d ∈ c.docs) : c.lookup (key d) = some d := by
  obtain ⟨docs, hnodup⟩ := c
  unfold lookup
  dsimp only at h ⊢
  induction docs with
  | nil => cases h
  | cons e docs ih =>
    rw [List.map_cons, List.nodup_cons] at hnodup
    rw [List.find?_cons]
    by_cases hk : key e = key d
    · rcases List.mem_cons.mp h with rfl | hmem
      · simp
      · exact absurd (hk ▸ List.mem_map_of_mem hmem) hnodup.1
    · rcases List.mem_cons.mp h with rfl | hmem
      · exact absurd rfl hk
      · simpa [hk] using ih hnodup.2 hmem

theorem lookup_eq_some_iff {k : κ} : c.lookup k = some d ↔ d ∈ c.docs ∧ key d = k := by
  constructor
  · exact mem_docs_of_lookup
  · rintro ⟨hmem, rfl⟩
    exact lookup_of_mem hmem

theorem lookup_deleteMany (p : α → Bool) (c : IndexedCollection key) (k : κ) :
    (c.deleteMany p).lookup k = (c.lookup k).filter fun d => !p d := by
  ext d
  rw [lookup_eq_some_iff, Option.filter_eq_some_iff, lookup_eq_some_iff, deleteMany,
    Collection.mem_deleteMany, Bool.not_eq_true']
  tauto

theorem lookup_updateMany (p : α → Bool) (f : α → α) (hf : ∀ d, key (f d) = key d)
    (c : IndexedCollection key) (k : κ) :
    (c.updateMany p f hf).lookup k = (c.lookup k).map fun d => if p d then f d else d := by
  have hkey : ∀ d, key (if p d then f d else d) = key d := by
    intro d
    by_cases hd : p d <;> simp [hd, hf]
  ext d
  rw [lookup_eq_some_iff, Option.map_eq_some_iff]
  unfold updateMany Collection.updateMany
  rw [List.mem_map]
  constructor
  · rintro ⟨⟨e, he, rfl⟩, hk⟩
    exact ⟨e, lookup_eq_some_iff.mpr ⟨he, by rw [← hk, hkey]⟩, rfl⟩
  · rintro ⟨e, he, rfl⟩
    obtain ⟨hmem, hk⟩ := mem_docs_of_lookup he
    exact ⟨⟨e, hmem, rfl⟩, by rw [hkey, hk]⟩

/-- `updateOne` with `upsert`: rewrite the document at `k` by `set`, or insert `set new`, where
`new` is a document holding nothing but the key. -/
def upsert (k : κ) (set : α → α) (new : α) (hset : ∀ d, key (set d) = key d) (hnew : key new = k)
    (c : IndexedCollection key) : IndexedCollection key where
  docs := c.docs.upsertOne (fun d => key d = k) set (set new)
  nodup := by
    rw [Collection.map_key_upsertOne hset hnew]
    split
    · exact c.nodup
    · rename_i hk
      exact List.nodup_append.mpr ⟨c.nodup, List.nodup_singleton k, by
        intro a ha b hb hab
        rw [List.mem_singleton] at hb
        exact hk (hb ▸ hab ▸ ha)⟩

theorem lookup_upsert (k : κ) (set : α → α) (new : α) (hset : ∀ d, key (set d) = key d)
    (hnew : key new = k) (c : IndexedCollection key) (k' : κ) :
    (c.upsert k set new hset hnew).lookup k'
      = if k' = k then some (set ((c.lookup k).getD new)) else c.lookup k' := by
  obtain ⟨docs, hnodup⟩ := c
  unfold upsert lookup
  dsimp only
  clear hnodup
  induction docs with
  | nil =>
    rw [Collection.upsertOne]
    by_cases hk : k' = k
    · subst hk
      simp [hset, hnew]
    · have : key (set new) ≠ k' := by rw [hset, hnew]; exact fun h => hk h.symm
      simp [this, hk]
  | cons d docs ih =>
    unfold Collection.upsertOne
    by_cases hd : key d = k
    · by_cases hk : k' = k
      · subst hk
        simp [hd, hset]
      · have hne : k ≠ k' := fun h => hk h.symm
        simp [hd, hset, hne, hk]
    · by_cases hk : k' = k
      · subst hk
        simpa [hd] using ih
      · by_cases hd' : key d = k'
        · simp [hd', hk]
        · simpa [hd, hd', hk] using ih

end IndexedCollection

end OpnetNode
