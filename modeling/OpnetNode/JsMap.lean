import Mathlib.Data.List.Nodup
import Mathlib.Data.List.Perm.Basic
import Mathlib.Tactic.Common

/-!
# Maps with insertion order

A `JsMap` is a finite map that iterates in insertion order: the list of its entries, with the proof
that no key occurs twice.  `get_set` is the only law that reading and writing need;
`mem_entries_iff` turns iteration into reading.
-/

namespace OpnetNode

/-- A map that iterates in insertion order, with one entry for each key. -/
structure JsMap (κ β : Type*) where
  entries : List (κ × β)
  keys_nodup : (entries.map Prod.fst).Nodup
  deriving DecidableEq

namespace JsMap

variable {κ β : Type*} [DecidableEq κ]

/-- The map without entries. -/
def empty : JsMap κ β := ⟨[], List.nodup_nil⟩

instance : Inhabited (JsMap κ β) := ⟨empty⟩

/-- The entries after a write: a key already there keeps its place. -/
def setEntries (k : κ) (v : β) : List (κ × β) → List (κ × β)
  | [] => [(k, v)]
  | e :: m => if e.1 = k then (k, v) :: m else e :: setEntries k v m

/-- The first value an entry list has for a key. -/
def getEntries (k : κ) : List (κ × β) → Option β
  | [] => none
  | e :: m => if e.1 = k then some e.2 else getEntries k m

variable {k : κ} {v : β}

variable {k' : κ} {m : List (κ × β)}

theorem mem_keys_setEntries :
    k' ∈ (setEntries k v m).map Prod.fst ↔ k' = k ∨ k' ∈ m.map Prod.fst := by
  induction m with
  | nil => simp [setEntries]
  | cons e m ih =>
    rw [setEntries]
    by_cases he : e.1 = k
    · simp only [he, ↓reduceIte, List.map_cons, List.mem_cons, or_self_left]
    · simp only [he, ↓reduceIte, List.map_cons, List.mem_cons, ih]
      tauto

theorem nodup_setEntries (h : (m.map Prod.fst).Nodup) :
    ((setEntries k v m).map Prod.fst).Nodup := by
  induction m with
  | nil => simp [setEntries]
  | cons e m ih =>
    rw [List.map_cons, List.nodup_cons] at h
    rw [setEntries]
    by_cases he : e.1 = k
    · simp only [he, ↓reduceIte, List.map_cons, List.nodup_cons]
      exact ⟨he ▸ h.1, h.2⟩
    · rw [if_neg he, List.map_cons, List.nodup_cons, mem_keys_setEntries, not_or]
      exact ⟨⟨he, h.1⟩, ih h.2⟩

theorem keys_setEntries (k : κ) (v : β) (m : List (κ × β)) :
    (setEntries k v m).map Prod.fst =
      if k ∈ m.map Prod.fst then m.map Prod.fst else m.map Prod.fst ++ [k] := by
  induction m with
  | nil => simp [setEntries]
  | cons e m ih =>
    rw [setEntries]
    by_cases he : e.1 = k
    · simp [he]
    · have he' : k ≠ e.1 := fun heq => he heq.symm
      rw [if_neg he, List.map_cons, ih, List.map_cons]
      by_cases hmem : k ∈ m.map Prod.fst
      · rw [if_pos hmem, if_pos (List.mem_cons_of_mem _ hmem)]
      · have hmem' : k ∉ e.1 :: m.map Prod.fst := by simp [he', hmem]
        rw [if_neg hmem, if_neg hmem', List.cons_append]

theorem length_setEntries_le (k : κ) (v : β) (m : List (κ × β)) :
    (setEntries k v m).length ≤ m.length + 1 := by
  induction m with
  | nil => simp [setEntries]
  | cons entry m ih =>
    unfold setEntries
    split
    · simp
    · simpa using ih

theorem getEntries_setEntries (k k' : κ) (v : β) (m : List (κ × β)) :
    getEntries k' (setEntries k v m) = if k' = k then some v else getEntries k' m := by
  induction m with
  | nil => simp [setEntries, getEntries, eq_comm]
  | cons e m ih =>
    rw [setEntries]
    by_cases he : e.1 = k
    · by_cases hk : k' = k
      · simp [he, hk, getEntries]
      · have hk' : k ≠ k' := fun h => hk h.symm
        simp [he, hk, hk', getEntries]
    · by_cases he' : e.1 = k'
      · have hk : k' ≠ k := fun h => he (he'.trans h)
        simp [he', hk, getEntries]
      · simpa [he, he', getEntries] using ih

theorem getEntries_eq_some (h : (m.map Prod.fst).Nodup) : getEntries k m = some v ↔ (k, v) ∈ m := by
  induction m with
  | nil => simp [getEntries]
  | cons e m ih =>
    rw [List.map_cons, List.nodup_cons] at h
    rw [getEntries, List.mem_cons]
    by_cases he : e.1 = k
    · have hk : (k, v) ∉ m := fun hm => h.1 (he ▸ List.mem_map_of_mem hm)
      rw [if_pos he, Option.some.injEq, Prod.ext_iff]
      simp [he, hk, eq_comm]
    · have hne : (k, v) ≠ e := fun hek => he (by rw [← hek])
      rw [if_neg he, ih h.2]
      simp [hne]

/-- The value at a key. -/
def get (m : JsMap κ β) (k : κ) : Option β := getEntries k m.entries

/-- Whether a key has a value. -/
def has (m : JsMap κ β) (k : κ) : Bool := (m.get k).isSome

/-- Write a value; a key already there keeps its place. -/
def set (m : JsMap κ β) (k : κ) (v : β) : JsMap κ β :=
  ⟨setEntries k v m.entries, nodup_setEntries m.keys_nodup⟩

/-- Remove a key. -/
def erase (m : JsMap κ β) (k : κ) : JsMap κ β :=
  ⟨m.entries.filter fun e => e.1 ≠ k, m.keys_nodup.sublist (List.filter_sublist.map Prod.fst)⟩

/-- Drop the entries whose key does not satisfy `q`. -/
def filterKeys (m : JsMap κ β) (q : κ → Bool) : JsMap κ β :=
  ⟨m.entries.filter fun e => q e.1, m.keys_nodup.sublist (List.filter_sublist.map Prod.fst)⟩

omit [DecidableEq κ] in
theorem keys_map {f : β → β} (l : List (κ × β)) :
    (l.map fun e => (e.1, f e.2)).map Prod.fst = l.map Prod.fst := by
  rw [List.map_map]
  rfl

/-- Change all values. -/
def mapVals (f : β → β) (m : JsMap κ β) : JsMap κ β :=
  ⟨m.entries.map fun e => (e.1, f e.2), by rw [keys_map]; exact m.keys_nodup⟩

def size (m : JsMap κ β) : Nat := m.entries.length

/-- The values in insertion order. -/
def vals (m : JsMap κ β) : List β := m.entries.map Prod.snd

/-- Write all entries of another map. -/
def setAll (m m' : JsMap κ β) : JsMap κ β :=
  m'.entries.foldl (fun m entry => m.set entry.1 entry.2) m

@[simp] theorem get_empty (k : κ) : (empty : JsMap κ β).get k = none := rfl

variable (m : JsMap κ β)

theorem size_set_le (k : κ) (v : β) : (m.set k v).size ≤ m.size + 1 :=
  length_setEntries_le k v m.entries

theorem get_set (k k' : κ) (v : β) : (m.set k v).get k' = if k' = k then some v else m.get k' :=
  getEntries_setEntries k k' v m.entries

@[simp] theorem get_set_self (k : κ) (v : β) : (m.set k v).get k = some v := by
  rw [get_set, if_pos rfl]

theorem has_set_self (k : κ) (v : β) : (m.set k v).has k = true := by
  rw [has, get_set_self]
  rfl

theorem get_set_of_ne (v : β) (h : k' ≠ k) : (m.set k v).get k' = m.get k' := by
  rw [get_set, if_neg h]

theorem getEntries_filter (q : κ → Bool) (k : κ) (l : List (κ × β)) :
    getEntries k (l.filter fun e => q e.1) = if q k then getEntries k l else none := by
  induction l with
  | nil => simp [getEntries]
  | cons e l ih =>
    by_cases he : q e.1
    · rw [List.filter_cons_of_pos (p := fun e : κ × β => q e.1) he, getEntries, getEntries, ih]
      by_cases hk : e.1 = k
      · have hq : q k := hk ▸ he
        rw [if_pos hk, if_pos hk, if_pos hq]
      · rw [if_neg hk, if_neg hk]
    · rw [List.filter_cons_of_neg (p := fun e : κ × β => q e.1) he, ih, getEntries]
      by_cases hk : e.1 = k
      · have hq : ¬ q k := hk ▸ he
        rw [if_neg hq, if_neg hq]
      · rw [if_neg hk]

theorem get_filterKeys (q : κ → Bool) (k : κ) :
    (m.filterKeys q).get k = if q k then m.get k else none :=
  getEntries_filter q k m.entries

theorem get_erase (k k' : κ) : (m.erase k).get k' = if k' = k then none else m.get k' := by
  refine (getEntries_filter (fun k' => k' ≠ k) k' m.entries).trans ?_
  by_cases h : k' = k
  · simp [h]
  · simp [h, get]

variable {α : Type*}

theorem get_foldl_erase (key : α → κ) (l : List α) (m : JsMap κ β) (k : κ) :
    (l.foldl (fun m a => m.erase (key a)) m).get k =
      if k ∈ l.map key then none else m.get k := by
  induction l generalizing m with
  | nil => simp
  | cons a l ih =>
    rw [List.foldl_cons, ih, get_erase, List.map_cons]
    by_cases hk : k = key a
    · simp [hk]
    · simp [hk]

theorem get_mapVals (f : β → β) (m : JsMap κ β) (k : κ) :
    (m.mapVals f).get k = (m.get k).map f := by
  show getEntries k (m.entries.map fun e => (e.1, f e.2)) = (getEntries k m.entries).map f
  induction m.entries with
  | nil => rfl
  | cons e l ih =>
    rw [List.map_cons, getEntries, getEntries, ih]
    by_cases he : e.1 = k
    · rw [if_pos he, if_pos he]
      rfl
    · rw [if_neg he, if_neg he]

theorem mem_entries_iff : (k, v) ∈ m.entries ↔ m.get k = some v :=
  (getEntries_eq_some m.keys_nodup).symm

variable {l : List (κ × β)}

theorem getEntries_eq_none (h : k ∉ l.map Prod.fst) : getEntries k l = none := by
  induction l with
  | nil => rfl
  | cons e l ih =>
    rw [List.map_cons, List.mem_cons, not_or] at h
    rw [getEntries, if_neg fun heq => h.1 heq.symm, ih h.2]

variable {S : Type*}

variable {f : S → κ × β → S}

theorem read_foldl_at (read : S → κ → α) {g : β → α → α}
    (hf : ∀ s e k, read (f s e) k = if k = e.1 then g e.2 (read s k) else read s k)
    (l : List (κ × β)) (h : (l.map Prod.fst).Nodup) (s : S) (k : κ) :
    read (l.foldl f s) k = (getEntries k l).elim (read s k) fun v => g v (read s k) := by
  induction l generalizing s with
  | nil => rfl
  | cons e l ih =>
    rw [List.map_cons, List.nodup_cons] at h
    rw [List.foldl_cons, ih h.2, hf, getEntries]
    by_cases he : e.1 = k
    · -- The key does not occur again, so the first entry decides.
      have hnone : getEntries k l = none := getEntries_eq_none (he ▸ h.1)
      simp [he, hnone]
    · have he' : k ≠ e.1 := fun heq => he heq.symm
      simp [he, he']

theorem read_foldl (read : S → κ → Option β)
    (hf : ∀ s e k, read (f s e) k = if k = e.1 then some e.2 else read s k)
    (l : List (κ × β)) (h : (l.map Prod.fst).Nodup) (s : S) (k : κ) :
    read (l.foldl f s) k = (getEntries k l).or (read s k) := by
  rw [read_foldl_at (g := fun v _ => some v) read hf l h s k]
  cases getEntries k l <;> rfl

variable {γ : Type*}

theorem read_foldlM {ε : Type*} (read : S → κ → Option γ) {f : S → κ × β → Except ε S}
    {R : κ → β → Option γ → γ → Prop}
    (hf : ∀ s e s', f s e = .ok s' → ∃ w, R e.1 e.2 (read s e.1) w ∧
      ∀ k, read s' k = if k = e.1 then some w else read s k)
    (h : (l.map Prod.fst).Nodup) {s s' : S} (hrun : l.foldlM f s = .ok s')
    (k : κ) : (getEntries k l).elim (read s' k = read s k) fun v =>
      ∃ w, R k v (read s k) w ∧ read s' k = some w := by
  induction l generalizing s with
  | nil =>
    obtain rfl : s = s' := Except.ok.inj hrun
    rfl
  | cons e l ih =>
    rw [List.map_cons, List.nodup_cons] at h
    rw [List.foldlM_cons] at hrun
    rcases hstep : f s e with error | s₁
    · rw [hstep] at hrun
      cases hrun
    · rw [hstep] at hrun
      obtain ⟨w, hw, hread⟩ := hf s e s₁ hstep
      have hrest := ih h.2 hrun
      rw [getEntries]
      by_cases he : e.1 = k
      · have hnone : getEntries k l = none := getEntries_eq_none (he ▸ h.1)
        subst he
        rw [hnone, Option.elim_none, hread, if_pos rfl] at hrest
        rw [if_pos rfl]
        exact ⟨w, hw, hrest⟩
      · have he' : k ≠ e.1 := fun heq => he heq.symm
        rw [hread, if_neg he'] at hrest
        rw [if_neg he]
        exact hrest

theorem get_foldl_set (h : ∀ e ∈ l, e.1 = k → e.2 = v) (m : JsMap κ β) :
    (l.foldl (fun m entry => m.set entry.1 entry.2) m).get k =
      if k ∈ l.map Prod.fst then some v else m.get k := by
  induction l generalizing m with
  | nil => simp
  | cons e l ih =>
    rw [List.foldl_cons, ih (fun e' he' => h e' (List.mem_cons_of_mem _ he')), get_set,
      List.map_cons]
    by_cases he : k = e.1
    · have hv : e.2 = v := h e List.mem_cons_self he.symm
      simp [he, hv]
    · simp only [he, if_false, List.mem_cons, false_or]

theorem get_setAll (m m' : JsMap κ β) (k : κ) : (m.setAll m').get k = (m'.get k).or (m.get k) :=
  read_foldl get (fun m e k => get_set m e.1 k e.2) m'.entries m'.keys_nodup m k

/-- The keys in insertion order. -/
def keys (m : JsMap κ β) : List κ := m.entries.map Prod.fst

theorem mem_keys_iff : k ∈ m.keys ↔ (m.get k).isSome := by
  unfold keys
  rw [List.mem_map, Option.isSome_iff_exists]
  constructor
  · rintro ⟨⟨k', v⟩, he, rfl⟩
    exact ⟨v, m.mem_entries_iff.mp he⟩
  · rintro ⟨v, hget⟩
    exact ⟨(k, v), m.mem_entries_iff.mpr hget, rfl⟩

theorem keys_set (k : κ) (v : β) :
    (m.set k v).keys = if k ∈ m.keys then m.keys else m.keys ++ [k] :=
  keys_setEntries k v m.entries

theorem keys_erase (k : κ) : (m.erase k).keys = m.keys.filter fun k' => k' ≠ k := by
  show (m.entries.filter fun e => e.1 ≠ k).map Prod.fst = (m.entries.map Prod.fst).filter _
  rw [List.filter_map]
  rfl

variable {m : JsMap κ β}

variable {R : κ → κ → Prop}

theorem pairwise_keys_foldl_set (h : (m.keys ++ l.map Prod.fst).Pairwise R) :
    (l.foldl (fun m entry => m.set entry.1 entry.2) m).keys.Pairwise R := by
  induction l generalizing m with
  | nil => rwa [List.map_nil, List.append_nil] at h
  | cons e l ih =>
    rw [List.foldl_cons]
    apply ih
    rw [keys_set]
    split_ifs
    · refine h.sublist (List.Sublist.append_left ?_ _)
      exact List.sublist_cons_self _ _
    · rwa [List.append_assoc]

theorem entries_set_of_get_eq_none (v : β) (h : m.get k = none) :
    (m.set k v).entries = m.entries ++ [(k, v)] := by
  replace h : getEntries k m.entries = none := h
  show setEntries k v m.entries = m.entries ++ [(k, v)]
  generalize m.entries = l at h
  induction l with
  | nil => rfl
  | cons e l ih =>
    rw [getEntries] at h
    split_ifs at h with he
    rw [setEntries, if_neg he, ih h]
    rfl

theorem vals_set_of_not_has (v : β) (h : m.has k = false) : (m.set k v).vals = m.vals ++ [v] := by
  have hget : getEntries k m.entries = none := by simpa [has, get] using h
  show (setEntries k v m.entries).map Prod.snd = m.entries.map Prod.snd ++ [v]
  generalize m.entries = l at hget
  induction l with
  | nil => rfl
  | cons e l ih =>
    rw [getEntries] at hget
    by_cases he : e.1 = k
    · simp [he] at hget
    · rw [if_neg he] at hget
      rw [setEntries, if_neg he, List.map_cons, ih hget]
      rfl

theorem flatMap_filter_entries (m : JsMap κ (List β)) (k : κ) :
    (m.entries.filter fun e => e.1 = k).flatMap Prod.snd = (m.get k).getD [] := by
  have hnodup := m.keys_nodup
  show _ = (getEntries k m.entries).getD []
  generalize m.entries = l at hnodup
  induction l with
  | nil => rfl
  | cons e l ih =>
    rw [List.map_cons, List.nodup_cons] at hnodup
    rw [getEntries]
    by_cases he : e.1 = k
    · have hnone : (l.filter fun e => e.1 = k) = [] := by
        rw [List.filter_eq_nil_iff]
        intro e' he' heq
        rw [decide_eq_true_eq] at heq
        exact hnodup.1 (he ▸ heq ▸ List.mem_map_of_mem he')
      rw [List.filter_cons_of_pos (by simpa using he), hnone, if_pos he]
      simp
    · rw [List.filter_cons_of_neg (by simpa using he), if_neg he]
      exact ih hnodup.2

theorem filterMap_vals_eq_singleton (f : β → Option γ) {r : γ} (h : (m.get k).bind f = some r)
    (hother : ∀ k', ((m.get k').bind f).isSome → k' = k) : m.vals.filterMap f = [r] := by
  obtain ⟨v, hget, hv⟩ := Option.bind_eq_some_iff.mp h
  have hmem := m.mem_entries_iff.mpr hget
  obtain ⟨l, l', hl⟩ := List.append_of_mem hmem
  have hnodup := m.keys_nodup
  rw [hl, List.map_append, List.map_cons] at hnodup
  obtain ⟨hnot, hnot'⟩ : k ∉ l.map Prod.fst ∧ k ∉ l'.map Prod.fst := by
    rw [List.nodup_middle, List.nodup_cons, List.mem_append, not_or] at hnodup
    exact hnodup.1
  have hnone : ∀ e ∈ m.entries, e.1 ≠ k → f e.2 = none := by
    intro e he hne
    by_contra hsome
    have hget' := m.mem_entries_iff.mp he
    exact hne (hother e.1 (by simpa [hget', Option.isSome_iff_ne_none] using hsome))
  have hnil : ∀ l₀ : List (κ × β), (∀ e ∈ l₀, e ∈ m.entries) → k ∉ l₀.map Prod.fst →
      (l₀.map Prod.snd).filterMap f = [] := by
    intro l₀ hsub hk
    rw [List.filterMap_eq_nil_iff]
    intro v' hv'
    obtain ⟨e, he, rfl⟩ := List.mem_map.mp hv'
    exact hnone e (hsub e he) fun heq => hk (heq ▸ List.mem_map_of_mem he)
  have hsub : ∀ e ∈ l, e ∈ m.entries := fun e he => by simp [hl, he]
  have hsub' : ∀ e ∈ l', e ∈ m.entries := fun e he => by simp [hl, he]
  rw [vals, hl, List.map_append, List.map_cons, List.filterMap_append, List.filterMap_cons,
    hnil l hsub hnot, hnil l' hsub' hnot', hv]
  rfl

theorem perm_set_of_get_eq_none (v : β) (h : m.get k = none) :
    (m.set k v).entries.Perm ((k, v) :: m.entries) := by
  replace h : getEntries k m.entries = none := h
  show (setEntries k v m.entries).Perm ((k, v) :: m.entries)
  generalize m.entries = l at h
  induction l with
  | nil => exact List.Perm.refl _
  | cons e l ih =>
    rw [getEntries] at h
    split_ifs at h with he
    rw [setEntries, if_neg he]
    exact ((ih h).cons e).trans (List.Perm.swap _ _ _)

theorem perm_set_of_get_eq_some {old : β} (v : β) (h : m.get k = some old) :
    ∃ rest, m.entries.Perm ((k, old) :: rest) ∧ (m.set k v).entries.Perm ((k, v) :: rest) := by
  replace h : getEntries k m.entries = some old := h
  show ∃ rest, m.entries.Perm ((k, old) :: rest) ∧
    (setEntries k v m.entries).Perm ((k, v) :: rest)
  generalize m.entries = l at h
  induction l with
  | nil => cases h
  | cons e l ih =>
    rw [getEntries] at h
    split_ifs at h with he
    · have hentry : e = (k, old) := Prod.ext he (Option.some.inj h)
      refine ⟨l, hentry ▸ List.Perm.refl _, ?_⟩
      rw [setEntries, if_pos he]
    · obtain ⟨rest, hold, hnew⟩ := ih h
      refine ⟨e :: rest, (hold.cons e).trans (List.Perm.swap _ _ _), ?_⟩
      rw [setEntries, if_neg he]
      exact (hnew.cons e).trans (List.Perm.swap _ _ _)

/-! ### The last entry of a kind -/

/-- The entry that an iteration over the map visits last among those whose key satisfies `q`. -/
def lastWhere (m : JsMap κ β) (q : κ → Bool) : Option (κ × β) :=
  m.entries.reverse.find? fun e => q e.1

variable {q : κ → Bool}

theorem of_lastWhere_eq_some {e : κ × β}
    (h : m.lastWhere q = some e) : q e.1 = true ∧ m.get e.1 = some e.2 := by
  have hmem : e ∈ m.entries := List.mem_reverse.mp (List.mem_of_find?_eq_some h)
  have hq := List.find?_some (p := fun e : κ × β => q e.1) h
  exact ⟨hq, m.mem_entries_iff.mp hmem⟩

omit [DecidableEq κ] in
theorem of_lastWhere_eq_none (h : m.lastWhere q = none) (hk : k ∈ m.keys) : q k = false := by
  obtain ⟨e, he, rfl⟩ := List.mem_map.mp hk
  have hnot := List.find?_eq_none.mp h e (List.mem_reverse.mpr he)
  simpa using hnot

omit [DecidableEq κ] in
theorem exists_lastWhere (h : m.keys.Pairwise R) (hk : k ∈ m.keys) (hq : q k = true) :
    ∃ e, m.lastWhere q = some e ∧ (k = e.1 ∨ R k e.1) := by
  obtain ⟨e₀, he₀, rfl⟩ := List.mem_map.mp hk
  rcases hlast : m.lastWhere q with _ | e
  · have hnot := of_lastWhere_eq_none hlast hk
    cases hq.symm.trans hnot
  · refine ⟨e, rfl, ?_⟩
    obtain ⟨-, after, before, hsplit, hafter⟩ := List.find?_eq_some_iff_append.mp hlast
    have hentries : m.entries = before.reverse ++ e :: after.reverse := by
      rw [← List.reverse_reverse m.entries, hsplit]
      simp
    have hmem : e₀ ∈ before.reverse ++ e :: after.reverse := hentries ▸ he₀
    have hpairwise : (m.entries.map Prod.fst).Pairwise R := h
    rw [hentries, List.map_append, List.map_cons, List.pairwise_append] at hpairwise
    rcases List.mem_append.mp hmem with hbefore | hrest
    · right
      exact hpairwise.2.2 e₀.1 (List.mem_map_of_mem hbefore) e.1 List.mem_cons_self
    · rcases List.mem_cons.mp hrest with rfl | hlater
      · exact Or.inl rfl
      · have hnot := hafter e₀ (List.mem_reverse.mp hlater)
        simp [hq] at hnot

end JsMap

end OpnetNode
