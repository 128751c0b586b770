import OpnetNode.Transition
import OpnetNode.Utils.Equiv.StandardMap

/-!
# Maps on objects are maps

`Refines` says of a sequence of calls that they return what the same calls on standard maps return,
and that in every state the maps have the same keys, size and entries.

* `Related`: the values, the list of the keys and the prototype of a map, against a standard one.
* `related_step`: a call that is `Plain` keeps this, and returns the same.
* `not_same_of_not_plain`: a call that is not either returns something else, or leaves a key that is
  not found.
* `refines_iff_meets`: so a sequence of calls refines the standard maps exactly if all of them are plain.
-/

namespace OpnetNode.FastMap

open Proc

variable {ι κ : Type} {toKey : κ → String} {T : Type} [DecidableEq κ]

/-! ### The relation -/

/-- The values are under the texts of the keys, the keys in their order, and the prototype is the one
that the object was created with. -/
structure Related (map : FastMap toKey T) (standard : JsMap κ T) : Prop where
  prototype : map.items.prototype = .objectPrototype
  own : ∀ key, map.items.own.get (toKey key) = standard.get key
  order : map.keyOrder = standard.keys
  noProto : map.items.own.has "__proto__" = false

variable {map : FastMap toKey T} {standard : JsMap κ T}

theorem related_new : Related (new : FastMap toKey T) JsMap.empty := ⟨rfl, fun _ => rfl, rfl, rfl⟩

theorem Related.has_eq (h : Related map standard) (key : κ) : map.has key = standard.has key :=
  congrArg Option.isSome (h.own key)

theorem Related.size_eq (h : Related map standard) : map.size = standard.size := by
  unfold FastMap.size
  rw [h.order]
  exact List.length_map ..

/-- The map when a key that is set is in the list. -/
def ordered (map : FastMap toKey T) (key : κ) : FastMap toKey T :=
  if map.has key then map else { map with keyOrder := map.keyOrder ++ [key] }

omit [DecidableEq κ] in
theorem items_ordered (map : FastMap toKey T) (key : κ) : (map.ordered key).items = map.items := by
  unfold ordered
  split_ifs <;> rfl

/-- What `setAll` copies of another map. -/
theorem Related.spread (h : Related map standard) :
    Related (⟨map.items.spread, map.keyOrder⟩ : FastMap toKey T) standard :=
  ⟨rfl, h.own, h.order, h.noProto⟩

theorem related_delete (hinj : Function.Injective toKey) (h : Related map standard) (key : κ) :
    ∃ map', delete key map = (.ok (standard.has key), map') ∧ Related map' (standard.erase key) := by
  rw [← h.has_eq]
  unfold delete
  show ∃ map', (if map.has key then _ else _ : FastMapM toKey T Bool) map = _ ∧ _
  cases hhas : map.has key with
  | true =>
    refine ⟨_, rfl, h.prototype, fun key' => ?_, ?_, ?_⟩
    · show (map.items.own.erase (toKey key)).get (toKey key') = _
      rw [JsMap.get_erase, JsMap.get_erase, h.own]
      simp only [hinj.eq_iff]
    · rw [JsMap.keys_erase, ← h.order]
    · show ((map.items.own.erase (toKey key)).get "__proto__").isSome = false
      rw [JsMap.get_erase]
      split_ifs
      · rfl
      · exact h.noProto
  | false =>
    -- nothing is there to be erased
    have hmissing : standard.get key = none := by
      rw [h.has_eq] at hhas
      exact Option.not_isSome_iff_eq_none.mp (Bool.eq_false_iff.mp hhas)
    refine ⟨map, rfl, h.prototype, fun key' => ?_, ?_, h.noProto⟩
    · rw [JsMap.get_erase, h.own]
      split_ifs with hkey
      · rw [hkey, hmissing]
      · rfl
    · rw [JsMap.keys_erase, h.order]
      symm
      rw [List.filter_eq_self]
      intro key' hkey'
      refine decide_eq_true fun heq => ?_
      rw [standard.mem_keys_iff, heq, hmissing] at hkey'
      cases hkey'

variable [JsType T]

/-! ### What the maps have to agree on -/

/-- Both maps have the same keys, the same size, and the same entries in the same order. -/
structure Agrees (map : FastMap toKey T) (standard : JsMap κ T) : Prop where
  has : ∀ key, map.has key = standard.has key
  size : map.size = standard.size
  entries : (entries map).1 = .ok (standard.entries.map fun e => (e.1, some (.stored e.2)))

/-- A call returns what it returns on the standard maps. -/
def SameResult [DecidableEq ι] (maps : ι → FastMap toKey T) (standard : ι → JsMap κ T)
    (event : ι × MapCall ι κ T) : Prop :=
  (step maps event).1 = .ok ((StandardMap.step standard event).1.map .stored)

/-- The calls return what they return on the standard maps, and the maps agree in every state. -/
def Refines [DecidableEq ι] :
    (ι → FastMap toKey T) → (ι → JsMap κ T) → List (ι × MapCall ι κ T) → Prop
  | maps, standard, [] => ∀ i, Agrees (maps i) (standard i)
  | maps, standard, event :: events =>
    (∀ i, Agrees (maps i) (standard i)) ∧ SameResult maps standard event ∧
      Refines (step maps event).2 (StandardMap.step standard event).2 events

/-- The condition of a call: a key that is looked up is there, or not a name that all objects inherit,
and no key that is inserted is `__proto__`. -/
def Plain (maps : ι → FastMap toKey T) (event : ι × MapCall ι κ T) : Prop :=
  match event.2 with
  | .get key => (maps event.1).has key = true ∨ toKey key ∉ objectPrototypeNames
  | .set key _ => toKey key ≠ "__proto__"
  | .getOrInsert key _ => toKey key ≠ "__proto__"
  | .getOrInsertComputed key _ => toKey key ≠ "__proto__"
  | _ => True

/-! ### The methods -/

theorem Related.readItem_eq (h : Related map standard) (key : κ) : readItem key map =
    (.ok (((standard.get key).map .stored).or (JsObject.inheritedValue T (toKey key))), map) := by
  unfold readItem
  rw [JsObject.read_eq h.prototype, h.own]

variable {key : κ}

theorem Related.readItem_of_get (h : Related map standard) {value : T}
    (hget : standard.get key = some value) : readItem key map = (.ok (some (.stored value)), map) := by
  rw [h.readItem_eq, hget]
  rfl

theorem Related.readItems_eq (h : Related map standard) {l : List (κ × T)}
    (hl : ∀ e ∈ l, standard.get e.1 = some e.2) :
    readItems (l.map Prod.fst) map = (.ok (l.map fun e => (e.1, some (.stored e.2))), map) := by
  induction l with
  | nil => rfl
  | cons e l ih =>
    rw [List.map_cons, readItems]
    refine (bind_of_ok (h.readItem_of_get (hl e List.mem_cons_self))).trans ?_
    exact bind_of_ok (ih fun e' he' => hl e' (List.mem_cons_of_mem e he'))

theorem Related.entries_eq (h : Related map standard) :
    entries map = (.ok (standard.entries.map fun e => (e.1, some (.stored e.2))), map) := by
  show readItems map.keyOrder map = _
  rw [h.order]
  exact h.readItems_eq fun _ he => standard.mem_entries_iff.mp he

theorem Related.agrees (h : Related map standard) : Agrees map standard :=
  ⟨h.has_eq, h.size_eq, congrArg Prod.fst h.entries_eq⟩

variable (hinj : Function.Injective toKey)

include hinj

theorem related_set (h : Related map standard) (hkey : toKey key ≠ "__proto__")
    (value : T) : ∃ map', set key value map = (.ok (), map') ∧ Related map' (standard.set key value) := by
  have horder : (map.ordered key).keyOrder = (standard.set key value).keys := by
    have hmem : key ∈ standard.keys ↔ map.has key = true := by
      rw [h.has_eq]
      exact standard.mem_keys_iff
    rw [JsMap.keys_set, ← h.order]
    unfold ordered
    split_ifs with hhas hkeys hkeys
    · rfl
    · exact absurd (hmem.mpr hhas) (h.order ▸ hkeys)
    · exact absurd (hmem.mp (h.order ▸ hkeys)) hhas
    · rfl
  refine ⟨{ map.ordered key with
    items := { map.items with own := map.items.own.set (toKey key) value } }, ?_, ?_, ?_, ?_, ?_⟩
  · show writeItem key value (map.ordered key) = _
    unfold writeItem
    rw [items_ordered, JsObject.write_eq h.prototype hkey]
  · exact h.prototype
  · intro key'
    rw [JsMap.get_set, JsMap.get_set, h.own]
    simp only [hinj.eq_iff]
  · exact horder
  · show ((map.items.own.set (toKey key) value).get "__proto__").isSome = false
    rw [JsMap.get_set_of_ne _ _ hkey.symm]
    exact h.noProto

theorem related_getOrInsert (h : Related map standard) (hkey : toKey key ≠ "__proto__")
    (value : T) : ∃ map' v, getOrInsert key value map = (.ok v, map') ∧
      (StandardMap.getOrInsert standard key value).1.map .stored = .value v ∧
      Related map' (StandardMap.getOrInsert standard key value).2 := by
  unfold getOrInsert StandardMap.getOrInsert
  show ∃ map' v, (if map.has key then _ else _ : FastMapM toKey T _) map = _ ∧ _
  rw [h.has_eq]
  unfold JsMap.has
  cases hget : standard.get key with
  | some old =>
    rw [if_pos Option.isSome_some]
    exact ⟨map, _, h.readItem_of_get hget, rfl, h⟩
  | none =>
    obtain ⟨map', hset, hrelated⟩ := related_set hinj h hkey value
    rw [if_neg (by simp)]
    refine ⟨map', some (.stored value), ?_, rfl, hrelated⟩
    exact bind_of_ok hset

/-! ### Steps -/

variable {maps : ι → FastMap toKey T} {standards : ι → JsMap κ T} {i : ι}

theorem related_call (h : ∀ i, Related (maps i) (standards i)) {c : MapCall ι κ T}
    (hplain : Plain maps (i, c)) :
    ∃ map', call maps c (maps i) =
        (.ok ((StandardMap.call standards (standards i) c).1.map .stored), map') ∧
      Related map' (StandardMap.call standards (standards i) c).2 := by
  cases c with
  | size =>
    refine ⟨maps i, ?_, h i⟩
    show (Except.ok _, maps i) = _
    rw [(h i).size_eq]
    rfl
  | get key =>
    refine ⟨maps i, ?_, h i⟩
    show bindResult _ (readItem key (maps i)) = _
    rw [(h i).readItem_eq, bindResult_ok]
    have hvalue : (((standards i).get key).map JsValue.stored).or
        (JsObject.inheritedValue T (toKey key)) = ((standards i).get key).map .stored := by
      rcases hplain with hhas | hname
      · rw [(h i).has_eq] at hhas
        obtain ⟨value, hget⟩ := Option.isSome_iff_exists.mp hhas
        rw [hget]
        rfl
      · rw [JsObject.inheritedValue_eq_none_iff.mpr hname, Option.or_none]
    rw [hvalue]
    rfl
  | has key =>
    refine ⟨maps i, ?_, h i⟩
    show (Except.ok _, maps i) = _
    rw [(h i).has_eq]
    rfl
  | set key value =>
    obtain ⟨map', hset, hrelated⟩ := related_set hinj (h i) hplain value
    refine ⟨map', ?_, hrelated⟩
    exact bind_of_ok hset
  | delete key =>
    obtain ⟨map', hdelete, hrelated⟩ := related_delete hinj (h i) key
    refine ⟨map', ?_, hrelated⟩
    exact bind_of_ok hdelete
  | clear => exact ⟨new, rfl, related_new⟩
  | getOrInsert key defaultValue =>
    obtain ⟨map', v, hrun, hvalue, hrelated⟩ :=
      related_getOrInsert hinj (h i) hplain defaultValue
    refine ⟨map', ?_, hrelated⟩
    show bindResult _ _ = (.ok ((StandardMap.getOrInsert (standards i) key defaultValue).1.map
      JsValue.stored), map')
    rw [hrun, hvalue]
    rfl
  | getOrInsertComputed key callbackfn =>
    obtain ⟨map', v, hrun, hvalue, hrelated⟩ :=
      related_getOrInsert hinj (h i) hplain (callbackfn key)
    refine ⟨map', ?_, hrelated⟩
    show bindResult _ (getOrInsert key (callbackfn key) (maps i)) =
      (.ok ((StandardMap.getOrInsert (standards i) key (callbackfn key)).1.map JsValue.stored), map')
    rw [hrun, hvalue]
    rfl
  | setAll other => exact ⟨_, rfl, (h other).spread⟩
  | entries =>
    refine ⟨maps i, ?_, h i⟩
    refine (bind_of_ok ((h i).entries_eq)).trans ?_
    simp [StandardMap.call, MapResult.map, Pure.pure]
  | keys =>
    refine ⟨maps i, ?_, h i⟩
    show (Except.ok (MapResult.keys (maps i).keyOrder), maps i) = _
    rw [(h i).order]
    rfl
  | values | forEach =>
    refine ⟨maps i, ?_, h i⟩
    show bindResult _ (bindResult _ (entries (maps i))) = _
    rw [(h i).entries_eq, bindResult_ok]
    simp [StandardMap.call, MapResult.map, Pure.pure, bindResult]

variable [DecidableEq ι] {event : ι × MapCall ι κ T}

/-- **Step lemma.** -/
theorem related_step (h : ∀ i, Related (maps i) (standards i)) (hplain : Plain maps event) :
    SameResult maps standards event ∧
      ∀ i, Related ((step maps event).2 i) ((StandardMap.step standards event).2 i) := by
  obtain ⟨j, c⟩ := event
  obtain ⟨map', hcall, hrelated⟩ := related_call hinj h hplain
  have hstep : step maps (j, c) =
      (.ok ((StandardMap.call standards (standards j) c).1.map .stored),
        Function.update maps j map') := by
    unfold step
    dsimp only
    rw [hcall]
  refine ⟨congrArg Prod.fst hstep, ?_⟩
  rw [hstep]
  exact forall_update_rel h hrelated

omit hinj

/-- A key with the text `__proto__` is not found after it is set. -/
theorem Related.has_set_proto (h : Related map standard) (hkey : toKey key = "__proto__")
    (value : T) : (set key value map).2.has key = false := by
  obtain ⟨items, hwrite, hown⟩ := JsObject.own_write_proto h.prototype h.noProto value
  show (writeItem key value (map.ordered key)).2.has key = false
  unfold writeItem
  rw [items_ordered, hkey, hwrite]
  show items.own.has (toKey key) = false
  rw [hkey, hown]
  exact h.noProto

theorem Related.has_getOrInsert_proto (h : Related map standard)
    (hkey : toKey key = "__proto__") (value : T) :
    (getOrInsert key value map).2.has key = false := by
  have hhas : map.has key = false := by
    unfold FastMap.has JsObject.hasOwnProperty
    rw [hkey]
    exact h.noProto
  have hstate : (getOrInsert key value map).2 = (set key value map).2 := by
    unfold getOrInsert
    show ((if map.has key then _ else _ : FastMapM toKey T _) map).2 = _
    rw [if_neg (by simp [hhas])]
    exact snd_bind_pure _ _ _
  rw [hstate]
  exact h.has_set_proto hkey value

theorem not_same_of_not_plain (h : ∀ i, Related (maps i) (standards i))
    (hplain : ¬ Plain maps event) :
    ¬ (SameResult maps standards event ∧
      ∀ i, Agrees ((step maps event).2 i) ((StandardMap.step standards event).2 i)) := by
  rintro ⟨hresult, hagrees⟩
  obtain ⟨j, c⟩ := event
  -- what is in the list of the keys, but not among the values, is a key of the standard map only
  have hlost : ∀ key, (call maps c (maps j)).2.has key = false →
      (StandardMap.call standards (standards j) c).2.has key = true → False := by
    intro key hnot hhas
    have hsame := (hagrees j).has key
    unfold step StandardMap.step at hsame
    dsimp only at hsame
    rw [Function.update_self, Function.update_self, hnot, hhas] at hsame
    cases hsame
  have hproto : ∀ key, ¬ toKey key ≠ "__proto__" → toKey key = "__proto__" :=
    fun key => not_not.mp
  cases c with
  | get key =>
    -- what is inherited under the name is returned, where there is no value
    obtain ⟨hmissing, hname⟩ := not_or.mp hplain
    rw [(h j).has_eq] at hmissing
    have hnone : (standards j).get key = none := Option.not_isSome_iff_eq_none.mp hmissing
    have hinherited : JsObject.inheritedValue T (toKey key) ≠ none := fun heq =>
      hname (JsObject.inheritedValue_eq_none_iff.mp heq)
    replace hresult : (bindResult _ (readItem key (maps j))).1 =
      .ok ((MapResult.value ((standards j).get key)).map JsValue.stored) := hresult
    rw [(h j).readItem_eq, hnone] at hresult
    injection hresult with hvalue
    injection hvalue with hvalue
    exact hinherited hvalue
  | set key value =>
    have hkey := hproto key hplain
    refine hlost key ?_ (JsMap.has_set_self (standards j) key value)
    have hstate : (call maps (.set key value) (maps j)).2 = (set key value (maps j)).2 :=
      snd_bind_pure _ _ _
    rw [hstate]
    exact (h j).has_set_proto hkey value
  | getOrInsert key defaultValue =>
    have hnot := (h j).has_getOrInsert_proto (hproto key hplain) defaultValue
    refine hlost key ?_ (StandardMap.has_getOrInsert (standards j) key defaultValue)
    have hstate : (call maps (.getOrInsert key defaultValue) (maps j)).2 =
        (getOrInsert key defaultValue (maps j)).2 := snd_bind_pure _ _ _
    rw [hstate]
    exact hnot
  | getOrInsertComputed key callbackfn =>
    have hnot := (h j).has_getOrInsert_proto (hproto key hplain) (callbackfn key)
    refine hlost key ?_ (StandardMap.has_getOrInsert (standards j) key (callbackfn key))
    have hstate : (call maps (.getOrInsertComputed key callbackfn) (maps j)).2 =
        (getOrInsert key (callbackfn key) (maps j)).2 := snd_bind_pure _ _ _
    rw [hstate]
    exact hnot
  | size | has | delete | clear | setAll | entries | keys | values | forEach => exact hplain trivial

/-! ### Runs -/

/-- The maps after a call, whether it returns or throws. -/
def next (maps : ι → FastMap toKey T) (event : ι × MapCall ι κ T) :
    Option (ι → FastMap toKey T) := some (step maps event).2

/-- The maps after some calls. -/
def run (maps : ι → FastMap toKey T) (events : List (ι × MapCall ι κ T)) : ι → FastMap toKey T :=
  events.foldl (fun maps event => (step maps event).2) maps

variable {events : List (ι × MapCall ι κ T)}

theorem Refines.agrees (h : Refines maps standards events)
    (i : ι) : Agrees (maps i) (standards i) := by
  cases events with
  | nil => exact h i
  | cons event events => exact h.1 i

include hinj

/-- **The calls refine those on standard maps exactly if all of them are plain.** -/
theorem refines_iff_meets (h : ∀ i, Related (maps i) (standards i)) :
    Refines maps standards events ↔ Meets next Plain maps events := by
  induction events generalizing maps standards with
  | nil => exact iff_of_true (fun i => (h i).agrees) trivial
  | cons event events ih =>
    constructor
    · rintro ⟨-, hresult, hrest⟩
      have hplain : Plain maps event := by
        by_contra hnot
        exact not_same_of_not_plain h hnot ⟨hresult, hrest.agrees⟩
      refine ⟨hplain, fun maps' hmaps => ?_⟩
      cases hmaps
      exact (ih (related_step hinj h hplain).2).mp hrest
    · rintro ⟨hplain, hrest⟩
      obtain ⟨hresult, hnext⟩ := related_step hinj h hplain
      exact ⟨fun i => (h i).agrees, hresult, (ih hnext).mpr (hrest _ rfl)⟩

theorem related_run (h : ∀ i, Related (maps i) (standards i))
    (hplain : Meets next Plain maps events) (i : ι) :
    Related (run maps events i) (StandardMap.run standards events i) := by
  induction events generalizing maps standards with
  | nil => exact h i
  | cons event events ih => exact ih (related_step hinj h hplain.1).2 (hplain.2 _ rfl)

end OpnetNode.FastMap

/-! ### `FastStringMap` and the names that all objects inherit

A text is its own key, so that the object is read and written by whatever the map is asked for. The calls
refine those on the standard maps exactly if no name of `Object.prototype` is looked up that is not a
key, and `__proto__` is never inserted. -/

namespace OpnetNode.FastStringMap

open FastMap

variable {ι T : Type} [DecidableEq ι] [JsType T]

/-- **`FastStringMap` refines a map** exactly in the sequences of plain calls, of which each iteration
is one. -/
theorem refines_iff_plain (events : List (ι × MapCall ι String T)) :
    Refines (fun _ => (new : FastStringMap T)) (fun _ => JsMap.empty) events ↔
      Meets next Plain (fun _ => (new : FastStringMap T)) events :=
  refines_iff_meets (fun _ _ h => h) fun _ => related_new

/-- A name that all objects inherit is looked up in an empty map, and a key `__proto__` is not found
after it was set. -/
theorem not_refines_inherited :
    ¬ Refines (fun _ : Unit => (new : FastStringMap ℤ)) (fun _ => JsMap.empty)
        [((), .get "constructor")] ∧
      ¬ Refines (fun _ : Unit => (new : FastStringMap ℤ)) (fun _ => JsMap.empty)
        [((), .set "__proto__" 1), ((), .has "__proto__")] := by
  constructor
  · intro h
    exact absurd (Except.ok.inj h.2.1) (by decide)
  · intro h
    exact absurd (Except.ok.inj h.2.2.2.1) (by decide)

end OpnetNode.FastStringMap
