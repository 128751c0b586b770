import Mathlib.Data.Int.Notation
import OpnetNode.JsMap

/-!
# Objects that are used as tables

An object literal that is read and written by computed names has its own properties, and a prototype,
which is asked for what the object does not have.

* `Inherited`: a property of a prototype, with what it does to a read and to an assignment.
* `JsType`: what the values that are stored are as prototypes, since a value that is assigned to
  `__proto__` can become one.
* `read`, `write`, `hasOwnProperty`, `delete`, `spread`: the operators on an object.
* `read_eq` and `write_eq`: on an object that has the prototype it was created with, a read finds the
  own properties and the names of `Object.prototype`, and an assignment to any name but `__proto__`
  writes an own property.
-/

namespace OpnetNode

/-- The names of the properties of `Object.prototype`. -/
def objectPrototypeNames : List String :=
  ["constructor", "__defineGetter__", "__defineSetter__", "hasOwnProperty", "__lookupGetter__",
    "__lookupSetter__", "isPrototypeOf", "propertyIsEnumerable", "toString", "valueOf", "__proto__",
    "toLocaleString"]

/-- A value that is read from an object: one that was stored, a function of `Object.prototype`, or
`Object.prototype` itself. -/
inductive JsValue (T : Type)
  | stored (value : T)
  | inherited (name : String)
  | objectPrototype
  deriving DecidableEq, Repr

/-- A property of a prototype: a value, the accessor `__proto__`, or another accessor, whose functions
may throw. -/
inductive Inherited (T : Type)
  | data (value : JsValue T) (writable : Bool)
  | proto
  | accessor (getter : Except String (Option (JsValue T))) (setter : Except String Unit)

/-- What a value is as a prototype. -/
inductive PrototypeKind (T : Type)
  | primitive
  | null
  | object (property : String → Option (Inherited T))

/-- A type of values that are stored in objects. -/
class JsType (T : Type) where
  kind : T → PrototypeKind T

/-- Numbers are primitive. -/
instance : JsType ℤ := ⟨fun _ => .primitive⟩

/-- The prototype of an object. -/
inductive Prototype (T : Type)
  | objectPrototype
  | null
  | value (value : T)
  deriving DecidableEq, Repr

variable {T : Type} [JsType T]

namespace Prototype

/-- The property that is found on the prototype, or on its own prototypes. -/
def property : Prototype T → String → Option (Inherited T)
  | .objectPrototype, name =>
    if name = "__proto__" then some .proto
    else if name ∈ objectPrototypeNames then some (.data (.inherited name) true)
    else none
  | .null, _ => none
  | .value v, name =>
    match JsType.kind v with
    | .object property => property name
    | _ => none

theorem property_objectPrototype (name : String) :
    (objectPrototype : Prototype T).property name =
      if name = "__proto__" then some .proto
      else if name ∈ objectPrototypeNames then some (.data (.inherited name) true)
      else none := rfl

/-- The prototype as a value; `none` is `null`. -/
def toValue : Prototype T → Option (JsValue T)
  | .objectPrototype => some .objectPrototype
  | .null => none
  | .value v => some (.stored v)

end Prototype

/-- An object with its own properties, whose order is not made use of. -/
structure JsObject (T : Type) where
  own : JsMap String T
  prototype : Prototype T

namespace JsObject

/-- `{}` -/
def empty : JsObject T := ⟨JsMap.empty, .objectPrototype⟩

/-- `object[name]`, where `none` is `undefined`. -/
def read (object : JsObject T) (name : String) : Except String (Option (JsValue T)) :=
  match object.own.get name with
  | some value => .ok (some (.stored value))
  | none =>
    match object.prototype.property name with
    | none => .ok none
    | some (.data value _) => .ok (some value)
    | some .proto => .ok object.prototype.toValue
    | some (.accessor getter _) => getter

/-- `object[name] = value` in strict mode. -/
def write (object : JsObject T) (name : String) (value : T) : Except String (JsObject T) :=
  if object.own.has name then .ok { object with own := object.own.set name value }
  else
    match object.prototype.property name with
    | none => .ok { object with own := object.own.set name value }
    | some (.data _ true) => .ok { object with own := object.own.set name value }
    | some (.data _ false) => .error "TypeError: Cannot assign to read only property"
    | some .proto =>
      -- the prototype is replaced by an object or `null`, and left by a primitive value
      match JsType.kind value with
      | .primitive => .ok object
      | .null => .ok { object with prototype := .null }
      | .object _ => .ok { object with prototype := .value value }
    | some (.accessor _ setter) => setter.map fun _ => object

/-- `Object.prototype.hasOwnProperty.call(object, name)` -/
def hasOwnProperty (object : JsObject T) (name : String) : Bool := object.own.has name

/-- `delete object[name]` -/
def delete (object : JsObject T) (name : String) : JsObject T :=
  { object with own := object.own.erase name }

/-- `{ ...object }` -/
def spread (object : JsObject T) : JsObject T := ⟨object.own, .objectPrototype⟩

/-! ### Objects with the prototype they were created with -/

variable {object : JsObject T}

/-- What `Object.prototype` has under a name. -/
def inheritedValue (T : Type) (name : String) : Option (JsValue T) :=
  if name = "__proto__" then some .objectPrototype
  else if name ∈ objectPrototypeNames then some (.inherited name)
  else none

omit [JsType T] in
theorem inheritedValue_eq_none_iff {name : String} :
    inheritedValue T name = none ↔ name ∉ objectPrototypeNames := by
  unfold inheritedValue
  split_ifs with hproto hname
  · simp [hproto, objectPrototypeNames]
  · simp [hname]
  · simp [hname]

theorem read_eq (h : object.prototype = .objectPrototype) (name : String) :
    object.read name = .ok (((object.own.get name).map .stored).or (inheritedValue T name)) := by
  unfold read
  rw [h]
  cases object.own.get name with
  | some value => rfl
  | none =>
    dsimp only
    rw [Prototype.property_objectPrototype]
    unfold inheritedValue
    split_ifs <;> rfl

/-- An assignment writes an own property, unless it is to `__proto__`. -/
theorem write_eq (h : object.prototype = .objectPrototype) {name : String} (hname : name ≠ "__proto__")
    (value : T) : object.write name value = .ok { object with own := object.own.set name value } := by
  have hproperty : object.prototype.property name =
      if name ∈ objectPrototypeNames then some (.data (.inherited name) true) else none := by
    rw [h, Prototype.property_objectPrototype, if_neg hname]
  unfold write
  rw [hproperty]
  split_ifs <;> rfl

/-- An assignment to `__proto__` writes no own property where there is none. -/
theorem own_write_proto (h : object.prototype = .objectPrototype)
    (hown : object.own.has "__proto__" = false) (value : T) :
    ∃ object', object.write "__proto__" value = .ok object' ∧ object'.own = object.own := by
  have hproperty : object.prototype.property "__proto__" = some .proto := by
    rw [h, Prototype.property_objectPrototype, if_pos rfl]
  unfold write
  rw [hown, if_neg Bool.false_ne_true, hproperty]
  dsimp only
  cases JsType.kind value with
  | primitive => exact ⟨object, rfl, rfl⟩
  | null | object => exact ⟨_, rfl, rfl⟩

end JsObject

end OpnetNode
