import Mathlib.Data.Int.Notation
import OpnetNode.AddressMap
import OpnetNode.Collection
import OpnetNode.JsMap

/-!
# Documents with named fields

A document as the store sees it, a map from field names to values, and the filters a command hands
over: a condition for each field it names.  Nothing ties the names in a filter to the names in the
documents; a filter that names a field no document has is answered, with no document.

* `FieldDocument.selects`: a document meets every condition of a filter.
* `setFields`: the update `$set`; `updateOne` and `countDocuments`: the commands.
* `not_selects_of_missing`, `countDocuments_eq_zero`: what a filter sees of the documents.
-/

namespace OpnetNode

/-- The value of a field; numbers of all widths compare with each other. -/
inductive FieldValue where
  | number (n : ℤ)
  | binary (b : Bytes)
  deriving DecidableEq, Repr

/-- What a filter asks of a field. -/
inductive FieldCondition where
  | eq (v : FieldValue)
  | lt (v : FieldValue)
  deriving DecidableEq, Repr

abbrev FieldDocument := JsMap String FieldValue

/-- A filter: the fields it names, with what it asks of each. -/
abbrev Criteria := List (String × FieldCondition)

/-- Whether the value found in a document, if any, meets a condition. -/
def FieldCondition.holds : FieldCondition → Option FieldValue → Bool
  | .eq v, stored => decide (stored = some v)
  | .lt (.number n), some (.number m) => decide (m < n)
  | .lt _, _ => false

namespace FieldDocument

/-- A document is selected by a filter when it meets all of its conditions. -/
def selects (criteria : Criteria) (d : FieldDocument) : Bool :=
  criteria.all fun c => c.2.holds (d.get c.1)

/-- `$set`: write the fields of `fields`, keep the others. -/
def setFields (fields d : FieldDocument) : FieldDocument := d.setAll fields

/-- What an upsert inserts before its update: the fields the filter asks to be equal. -/
def ofCriteria (criteria : Criteria) : FieldDocument :=
  criteria.foldl
    (fun d c => match c.2 with
      | .eq v => d.set c.1 v
      | .lt _ => d)
    JsMap.empty

/-- `updateOne` with `$set` and `upsert`. -/
def updateOne (criteria : Criteria) (fields : FieldDocument) (c : Collection FieldDocument) :
    Collection FieldDocument :=
  c.upsertOne (selects criteria) (setFields fields) (setFields fields (ofCriteria criteria))

def countDocuments (criteria : Criteria) (c : Collection FieldDocument) : ℕ :=
  c.countP (selects criteria)

theorem get_setFields (fields d : FieldDocument) (name : String) :
    (setFields fields d).get name = (fields.get name).or (d.get name) :=
  JsMap.get_setAll d fields name

variable {criteria : Criteria} {name : String} {v : FieldValue}

theorem not_selects_of_missing {d : FieldDocument}
    (h : (name, .eq v) ∈ criteria) (hd : d.get name = none) :
    selects criteria d = false := by
  unfold selects
  rw [List.all_eq_false]
  have hcond : (FieldCondition.eq v).holds none = false := by
    unfold FieldCondition.holds
    simp
  exact ⟨(name, .eq v), h, by rw [hd, hcond]; exact Bool.false_ne_true⟩

theorem countDocuments_eq_zero {c : Collection FieldDocument}
    (h : (name, .eq v) ∈ criteria) (hc : ∀ d ∈ c, d.get name = none) :
    countDocuments criteria c = 0 := by
  unfold countDocuments
  rw [List.countP_eq_zero]
  intro d hd hselects
  have hnone : selects criteria d = false := not_selects_of_missing h (hc d hd)
  rw [hnone] at hselects
  exact Bool.false_ne_true hselects

end FieldDocument

end OpnetNode
