import Mathlib.Logic.Function.Basic
import OpnetNode.JsObject
import OpnetNode.Proc

/-!
# Maps on objects

`FastStringMap` and `FastBigIntMap` are one class but for the type of the keys: the values are in an
object under the texts of the keys, and the order of the keys is in a list beside it.  `FastMap` is
this class over the function that makes a text of a key, with its methods under their names.

`MapCall` are the calls on a map, and `step` makes one of them on one of several maps, as `setAll`
copies from another one.  An iteration is one call, that runs to its end: no map is changed between
two elements of it.
-/

namespace OpnetNode

/-- `items` and `keyOrder`, for keys that become texts by `toKey`. -/
structure FastMap {κ : Type} (toKey : κ → String) (T : Type) where
  items : JsObject T
  keyOrder : List κ

/-- A text is its own key. -/
abbrev FastStringMap (T : Type) := FastMap (fun key : String => key) T

/-- A big integer becomes a text in decimals. -/
abbrev FastBigIntMap := FastMap (fun key : ℤ => toString key) ℤ

namespace FastMap

open Proc

variable {κ : Type} {toKey : κ → String} {T : Type} [DecidableEq κ] [JsType T]

/-- A method of a map, which may throw. -/
abbrev FastMapM (toKey : κ → String) (T α : Type) := Proc (FastMap toKey T) String α

/-- The map that is constructed without entries. -/
def new : FastMap toKey T := ⟨JsObject.empty, []⟩

/-- Number of entries in the map. -/
def size (map : FastMap toKey T) : ℕ := map.keyOrder.length

def has (map : FastMap toKey T) (key : κ) : Bool := map.items.hasOwnProperty (toKey key)

/-- `this.items[key]` -/
def readItem (key : κ) : FastMapM toKey T (Option (JsValue T)) :=
  fun map => (map.items.read (toKey key), map)

/-- `this.items[key] = value` -/
def writeItem (key : κ) (value : T) : FastMapM toKey T Unit := fun map =>
  match map.items.write (toKey key) value with
  | .ok items => (.ok (), { map with items })
  | .error e => (.error e, map)

/-- Copies all entries from another map into this map, replacing any existing entries. -/
def setAll (other : FastMap toKey T) : FastMapM toKey T Unit :=
  modify fun _ => { items := other.items.spread, keyOrder := other.keyOrder }

def set (key : κ) (value : T) : FastMapM toKey T Unit := do
  modify fun map => if map.has key then map else { map with keyOrder := map.keyOrder ++ [key] }
  writeItem key value

def get (key : κ) : FastMapM toKey T (Option (JsValue T)) := readItem key

/-- Deletes a key if it exists. Returns boolean indicating success. -/
def delete (key : κ) : FastMapM toKey T Bool := do
  let map ← Proc.get
  if map.has key then do
    modify fun map =>
      { items := map.items.delete (toKey key), keyOrder := map.keyOrder.filter fun k => k ≠ key }
    return true
  else return false

/-- Removes all keys and values. -/
def clear : FastMapM toKey T Unit := modify fun _ => { items := JsObject.empty, keyOrder := [] }

/-- Reads the items of some keys, one after the other. -/
def readItems : List κ → FastMapM toKey T (List (κ × Option (JsValue T)))
  | [] => return []
  | key :: keys => do
    let value ← readItem key
    let entries ← readItems keys
    return (key, value) :: entries

/-- Iterates over [key, value] pairs in insertion order, to the end. -/
def entries : FastMapM toKey T (List (κ × Option (JsValue T))) := do
  let map ← Proc.get
  readItems map.keyOrder

/-- Iterates over keys in insertion order. -/
def keys (map : FastMap toKey T) : List κ := map.keyOrder

/-- Iterates over values in insertion order. -/
def values : FastMapM toKey T (List (Option (JsValue T))) := do
  let entries ← entries
  return entries.map Prod.snd

/-- The arguments of the callback, in insertion order. -/
def forEach : FastMapM toKey T (List (Option (JsValue T) × κ)) := do
  let entries ← entries
  return entries.map Prod.swap

def getOrInsert (key : κ) (defaultValue : T) : FastMapM toKey T (Option (JsValue T)) := do
  let map ← Proc.get
  if map.has key then readItem key
  else do
    set key defaultValue
    return some (.stored defaultValue)

def getOrInsertComputed (key : κ) (callbackfn : κ → T) : FastMapM toKey T (Option (JsValue T)) := do
  let map ← Proc.get
  if map.has key then readItem key
  else do
    let value := callbackfn key
    set key value
    return some (.stored value)

end FastMap

/-! ### Calls -/

/-- The calls on a map; `setAll` names the map that is copied. -/
inductive MapCall (ι κ T : Type)
  | size
  | get (key : κ)
  | has (key : κ)
  | set (key : κ) (value : T)
  | delete (key : κ)
  | clear
  | getOrInsert (key : κ) (defaultValue : T)
  | getOrInsertComputed (key : κ) (callbackfn : κ → T)
  | setAll (other : ι)
  | entries
  | keys
  | values
  | forEach

/-- What a call returns; `none` is `undefined`. -/
inductive MapResult (κ V : Type)
  | done
  | number (n : ℕ)
  | flag (b : Bool)
  | value (v : Option V)
  | entries (entries : List (κ × Option V))
  | keys (keys : List κ)
  | values (values : List (Option V))
  | callbacks (arguments : List (Option V × κ))
  deriving DecidableEq

namespace FastMap

open Proc

variable {ι κ : Type} {toKey : κ → String} {T : Type} [DecidableEq κ] [JsType T]

def call (maps : ι → FastMap toKey T) :
    MapCall ι κ T → FastMapM toKey T (MapResult κ (JsValue T))
  | .size => do
    let map ← Proc.get
    return .number map.size
  | .get key => do
    let value ← FastMap.get key
    return .value value
  | .has key => do
    let map ← Proc.get
    return .flag (map.has key)
  | .set key value => do
    set key value
    return .done
  | .delete key => do
    let deleted ← delete key
    return .flag deleted
  | .clear => do
    clear
    return .done
  | .getOrInsert key defaultValue => do
    let value ← getOrInsert key defaultValue
    return .value value
  | .getOrInsertComputed key callbackfn => do
    let value ← getOrInsertComputed key callbackfn
    return .value value
  | .setAll other => do
    setAll (maps other)
    return .done
  | .entries => do
    let entries ← entries
    return .entries entries
  | .keys => do
    let map ← Proc.get
    return .keys map.keys
  | .values => do
    let values ← values
    return .values values
  | .forEach => do
    let arguments ← FastMap.forEach
    return .callbacks arguments

variable [DecidableEq ι]

def step (maps : ι → FastMap toKey T) (event : ι × MapCall ι κ T) :
    Except String (MapResult κ (JsValue T)) × (ι → FastMap toKey T) :=
  let answer := call maps event.2 (maps event.1)
  (answer.1, Function.update maps event.1 answer.2)

end FastMap

end OpnetNode
