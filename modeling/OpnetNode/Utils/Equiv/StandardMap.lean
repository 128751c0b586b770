import OpnetNode.Utils.FastMap

/-!
# Standard maps

What the calls do on a standard map, and in which order it is iterated.

* `call` and `step`: the calls on a `JsMap`, as the language describes them for a `Map`.
* `insertions`: when the keys of the maps were inserted, counted in calls, first since they were last
  deleted; the keys of a map that is copied are inserted when they were in that one.
* `inOrder_insertions`: a map has the keys that were inserted, in that order.
-/

namespace OpnetNode

theorem forall_update_rel {ι α β : Type} [DecidableEq ι] {r : α → β → Prop} {f : ι → α} {g : ι → β}
    (h : ∀ i, r (f i) (g i)) {j : ι} {a : α} {b : β} (hj : r a b) :
    ∀ i, r (Function.update f j a i) (Function.update g j b i) := by
  intro i
  by_cases hi : i = j
  · rw [hi, Function.update_self, Function.update_self]
    exact hj
  · rw [Function.update_of_ne hi, Function.update_of_ne hi]
    exact h i

/-- A result with other values. -/
def MapResult.map {κ V W : Type} (f : V → W) : MapResult κ V → MapResult κ W
  | .done => .done
  | .number n => .number n
  | .flag b => .flag b
  | .value v => .value (v.map f)
  | .entries l => .entries (l.map fun e => (e.1, e.2.map f))
  | .keys l => .keys l
  | .values l => .values (l.map fun v => v.map f)
  | .callbacks l => .callbacks (l.map fun a => (a.1.map f, a.2))

namespace StandardMap

variable {ι κ T : Type} [DecidableEq κ]

/-- The value of a key, which is inserted if there is none. -/
def getOrInsert (map : JsMap κ T) (key : κ) (value : T) : MapResult κ T × JsMap κ T :=
  match map.get key with
  | some old => (.value (some old), map)
  | none => (.value (some value), map.set key value)

theorem has_getOrInsert (map : JsMap κ T) (key : κ) (value : T) :
    (getOrInsert map key value).2.has key = true := by
  unfold getOrInsert
  cases hget : map.get key with
  | some old => exact congrArg Option.isSome hget
  | none => exact JsMap.has_set_self map key value

def call (maps : ι → JsMap κ T) (map : JsMap κ T) :
    MapCall ι κ T → MapResult κ T × JsMap κ T
  | .size => (.number map.size, map)
  | .get key => (.value (map.get key), map)
  | .has key => (.flag (map.has key), map)
  | .set key value => (.done, map.set key value)
  | .delete key => (.flag (map.has key), map.erase key)
  | .clear => (.done, .empty)
  | .getOrInsert key defaultValue => getOrInsert map key defaultValue
  | .getOrInsertComputed key callbackfn => getOrInsert map key (callbackfn key)
  | .setAll other => (.done, maps other)
  | .entries => (.entries (map.entries.map fun e => (e.1, some e.2)), map)
  | .keys => (.keys map.keys, map)
  | .values => (.values (map.entries.map fun e => some e.2), map)
  | .forEach => (.callbacks (map.entries.map fun e => (some e.2, e.1)), map)

variable [DecidableEq ι]

def step (maps : ι → JsMap κ T) (event : ι × MapCall ι κ T) :
    MapResult κ T × (ι → JsMap κ T) :=
  let answer := call maps (maps event.1) event.2
  (answer.1, Function.update maps event.1 answer.2)

/-! ### The order of the insertions -/

def insertNow (now : ℕ) (inserted : κ → Option ℕ) (key : κ) : κ → Option ℕ :=
  fun k => if k = key then some ((inserted key).getD now) else inserted k

/-- When the keys of a map were inserted, after one more call. -/
def insertedBy (now : ℕ) (inserted : ι → κ → Option ℕ) (i : ι) : MapCall ι κ T → κ → Option ℕ
  | .set key _ => insertNow now (inserted i) key
  | .getOrInsert key _ => insertNow now (inserted i) key
  | .getOrInsertComputed key _ => insertNow now (inserted i) key
  | .delete key => Function.update (inserted i) key none
  | .clear => fun _ => none
  | .setAll other => inserted other
  | _ => inserted i

/-- When the keys were inserted, after some more calls. -/
def insertionsFrom (now : ℕ) (inserted : ι → κ → Option ℕ) :
    List (ι × MapCall ι κ T) → ι → κ → Option ℕ
  | [] => inserted
  | event :: events =>
    insertionsFrom (now + 1)
      (Function.update inserted event.1 (insertedBy now inserted event.1 event.2)) events

/-- **When the keys of the maps were inserted**, first since they were last deleted. -/
def insertions (events : List (ι × MapCall ι κ T)) : ι → κ → Option ℕ :=
  insertionsFrom 0 (fun _ _ => none) events

/-- The keys are those that were inserted, each once, in the order of their insertions. -/
structure InOrder (inserted : κ → Option ℕ) (keys : List κ) : Prop where
  once : keys.Nodup
  mem : ∀ key, key ∈ keys ↔ (inserted key).isSome = true
  order : keys.Pairwise fun key key' =>
    ∀ n ∈ inserted key, ∀ n' ∈ inserted key', n < n'

/-- All insertions are in the past. -/
def Past (now : ℕ) (inserted : κ → Option ℕ) : Prop := ∀ key, ∀ n ∈ inserted key, n < now

variable {now : ℕ} {inserted : κ → Option ℕ} {map : JsMap κ T}

theorem past_insertNow (h : Past now inserted) (key : κ) :
    Past (now + 1) (insertNow now inserted key) := by
  intro k n hn
  unfold insertNow at hn
  split_ifs at hn with hk
  · cases hn
    cases hold : inserted key with
    | none => exact Nat.lt_succ_self now
    | some old => exact Nat.lt_succ_of_lt (h key old hold)
  · exact Nat.lt_succ_of_lt (h k n hn)

theorem inOrder_set (h : InOrder inserted map.keys) (hpast : Past now inserted) (key : κ)
    (value : T) : InOrder (insertNow now inserted key) (map.set key value).keys := by
  refine ⟨(map.set key value).keys_nodup, fun k => ?_, ?_⟩
  · have hmem : k ∈ (map.set key value).keys ↔ k = key ∨ k ∈ map.keys :=
      JsMap.mem_keys_setEntries
    rw [hmem, h.mem]
    unfold insertNow
    split_ifs with hk <;> simp [hk]
  · rw [JsMap.keys_set]
    split_ifs with hkey
    · -- the key is there, and so is its insertion
      obtain ⟨old, hold⟩ := Option.isSome_iff_exists.mp ((h.mem key).mp hkey)
      have hsame : insertNow now inserted key = inserted := by
        funext k
        unfold insertNow
        split_ifs with hk
        · rw [hk, hold]
          rfl
        · rfl
      rw [hsame]
      exact h.order
    · have hkept : ∀ k ∈ map.keys, insertNow now inserted key k = inserted k := by
        intro k hk
        have hne : k ≠ key := fun heq => hkey (heq ▸ hk)
        exact if_neg hne
      have hnone : inserted key = none := by
        rw [← Option.not_isSome_iff_eq_none, ← h.mem]
        exact hkey
      rw [List.pairwise_append]
      refine ⟨?_, List.pairwise_singleton _ _, ?_⟩
      · refine h.order.imp_of_mem fun hk hk' hlt => ?_
        rw [hkept _ hk, hkept _ hk']
        exact hlt
      · intro k hk k' hk' n hn n' hn'
        obtain rfl := List.mem_singleton.mp hk'
        rw [hkept k hk] at hn
        have hnow : insertNow now inserted k' k' = some now := by
          unfold insertNow
          rw [if_pos rfl, hnone]
          rfl
        rw [hnow] at hn'
        cases hn'
        exact hpast k n hn

theorem inOrder_erase (h : InOrder inserted map.keys) (key : κ) :
    InOrder (Function.update inserted key none) (map.erase key).keys := by
  rw [JsMap.keys_erase]
  refine ⟨h.once.filter _, fun k => ?_, ?_⟩
  · rw [List.mem_filter, h.mem]
    by_cases hk : k = key
    · subst hk
      simp
    · simp [hk]
  · refine (h.order.filter _).imp_of_mem fun hk hk' hlt => ?_
    have hne := of_decide_eq_true (List.mem_filter.mp hk).2
    have hne' := of_decide_eq_true (List.mem_filter.mp hk').2
    rw [Function.update_of_ne hne, Function.update_of_ne hne']
    exact hlt

theorem inOrder_getOrInsert (h : InOrder inserted map.keys) (hpast : Past now inserted) (key : κ)
    (value : T) : InOrder (insertNow now inserted key) (getOrInsert map key value).2.keys := by
  unfold getOrInsert
  cases hget : map.get key with
  | none => exact inOrder_set h hpast key value
  | some old =>
    have hkeys : (map.set key old).keys = map.keys := by
      rw [JsMap.keys_set, if_pos (map.mem_keys_iff.mpr (by rw [hget]; rfl))]
    have hset := inOrder_set h hpast key old
    rw [hkeys] at hset
    exact hset

variable {maps : ι → JsMap κ T} {insertedAt : ι → κ → Option ℕ}

/-- **Step lemma.** -/
theorem inOrder_step (h : ∀ i, InOrder (insertedAt i) (maps i).keys)
    (hpast : ∀ i, Past now (insertedAt i)) (event : ι × MapCall ι κ T) :
    (∀ i, InOrder (Function.update insertedAt event.1 (insertedBy now insertedAt event.1 event.2) i)
      ((step maps event).2 i).keys) ∧
    ∀ i, Past (now + 1)
      (Function.update insertedAt event.1 (insertedBy now insertedAt event.1 event.2) i) := by
  obtain ⟨j, call⟩ := event
  have hlater : ∀ i, Past (now + 1) (insertedAt i) := fun i key n hn =>
    Nat.lt_succ_of_lt (hpast i key n hn)
  have hself : InOrder (insertedBy now insertedAt j call) (StandardMap.call maps (maps j) call).2.keys ∧
      Past (now + 1) (insertedBy now insertedAt j call) := by
    cases call with
    | set key value => exact ⟨inOrder_set (h j) (hpast j) key value, past_insertNow (hpast j) key⟩
    | getOrInsert key value =>
      exact ⟨inOrder_getOrInsert (h j) (hpast j) key value, past_insertNow (hpast j) key⟩
    | getOrInsertComputed key callbackfn =>
      exact ⟨inOrder_getOrInsert (h j) (hpast j) key _, past_insertNow (hpast j) key⟩
    | delete key =>
      refine ⟨inOrder_erase (h j) key, fun k n hn => ?_⟩
      show n < now + 1
      by_cases hk : k = key
      · subst hk
        replace hn : Function.update (insertedAt j) k none k = some n := hn
        rw [Function.update_self] at hn
        cases hn
      · replace hn : Function.update (insertedAt j) key none k = some n := hn
        rw [Function.update_of_ne hk] at hn
        exact hlater j k n hn
    | clear =>
      refine ⟨⟨List.nodup_nil, fun key => ?_, List.Pairwise.nil⟩, fun key n hn => ?_⟩
      · exact ⟨fun hmem => absurd hmem List.not_mem_nil, fun hsome => (by cases hsome)⟩
      · cases hn
    | setAll other => exact ⟨h other, hlater other⟩
    | size | get | has | entries | keys | values | forEach => exact ⟨h j, hlater j⟩
  constructor
  · exact forall_update_rel (r := fun inserted map => InOrder inserted (JsMap.keys map)) h hself.1
  · rw [Function.forall_update_iff]
    exact ⟨hself.2, fun i _ => hlater i⟩

/-- The maps after some calls. -/
def run (maps : ι → JsMap κ T) (events : List (ι × MapCall ι κ T)) : ι → JsMap κ T :=
  events.foldl (fun maps event => (step maps event).2) maps

/-- **A map has the keys that were inserted, in the order of their insertions.** -/
theorem inOrder_insertions (events : List (ι × MapCall ι κ T)) (i : ι) :
    InOrder (insertions events i) (run (fun _ => JsMap.empty) events i).keys := by
  have hfrom : ∀ (now : ℕ) (insertedAt : ι → κ → Option ℕ) (maps : ι → JsMap κ T),
      (∀ i, InOrder (insertedAt i) (maps i).keys) → (∀ i, Past now (insertedAt i)) →
      InOrder (insertionsFrom now insertedAt events i) (run maps events i).keys := by
    induction events with
    | nil => exact fun _ _ _ h _ => h i
    | cons event events ih =>
      intro now insertedAt maps h hpast
      obtain ⟨hnext, hpast'⟩ := inOrder_step h hpast event
      exact ih (now + 1) _ _ hnext hpast'
  refine hfrom 0 _ _ (fun _ => ⟨List.nodup_nil, fun key => ?_, List.Pairwise.nil⟩) fun _ _ _ hn => ?_
  · exact ⟨fun hmem => absurd hmem List.not_mem_nil, fun hsome => (by cases hsome)⟩
  · cases hn

end StandardMap

end OpnetNode
