import OpnetNode.FieldDocument

/-!
# The target-epoch collection

The collection of accepted solutions for the epochs still to be closed.  The writer, the existence
query and the deletions each build their own filter over the documents' fields.

* `targetEpochExists`, `saveTargetEpoch`, `deleteOldTargetEpochs`, `deleteAllTargetEpochs`: the
  repository's commands.
* `EpochValidator.solutionExists`, `EpochValidator.saveEpochSolution`: the validator's use of them.
* `TargetEpochOperation`: one command of the component, `runOperations` a sequence of them.
-/

namespace OpnetNode

/-- A document of the collection. -/
structure ITargetEpochDocument where
  epochNumber : ℤ
  difficulty : ℕ
  salt : Bytes
  mldsaPublicKey : Bytes
  legacyPublicKey : Bytes
  graffiti : Option Bytes
  signature : Bytes
  deriving DecidableEq, Repr

/-- What a miner submits. -/
structure EpochValidationParams where
  epochNumber : ℤ
  checksumRoot : Bytes
  salt : Bytes
  mldsaPublicKey : Bytes
  graffiti : Option Bytes
  signature : Bytes
  deriving DecidableEq, Repr

namespace ITargetEpochDocument

/-- The fields as they are stored; an absent graffiti is no field. -/
def fields (d : ITargetEpochDocument) : FieldDocument :=
  let required : FieldDocument :=
    (((((JsMap.empty.set "epochNumber" (FieldValue.number d.epochNumber)).set
      "salt" (.binary d.salt)).set
      "difficulty" (.number d.difficulty)).set
      "mldsaPublicKey" (.binary d.mldsaPublicKey)).set
      "legacyPublicKey" (.binary d.legacyPublicKey)).set
      "signature" (.binary d.signature)
  d.graffiti.elim required fun graffiti => required.set "graffiti" (.binary graffiti)

end ITargetEpochDocument

namespace TargetEpochRepository

/-- The filter of `targetEpochExists`. -/
def existsCriteria (epochNumber : ℤ) (salt mldsaPublicKey : Bytes) : Criteria :=
  [("epochNumber", .eq (.number epochNumber)), ("salt", .eq (.binary salt)),
    ("publicKey", .eq (.binary mldsaPublicKey))]

def targetEpochExists (c : Collection FieldDocument) (epochNumber : ℤ)
    (salt mldsaPublicKey : Bytes) : Bool :=
  decide (0 < FieldDocument.countDocuments (existsCriteria epochNumber salt mldsaPublicKey) c)

/-- The filter of `saveTargetEpoch`. -/
def saveCriteria (epochNumber : ℤ) (salt mldsaPublicKey : Bytes) : Criteria :=
  [("epochNumber", .eq (.number epochNumber)), ("salt", .eq (.binary salt)),
    ("mldsaPublicKey", .eq (.binary mldsaPublicKey))]

def saveTargetEpoch (targetEpoch : ITargetEpochDocument) :
    Collection FieldDocument → Collection FieldDocument :=
  FieldDocument.updateOne
    (saveCriteria targetEpoch.epochNumber targetEpoch.salt targetEpoch.mldsaPublicKey)
    targetEpoch.fields

def deleteOldTargetEpochs (epochNumber : ℤ) :
    Collection FieldDocument → Collection FieldDocument :=
  Collection.deleteMany (FieldDocument.selects [("epochNumber", .lt (.number epochNumber))])

def deleteAllTargetEpochs : Collection FieldDocument → Collection FieldDocument :=
  Collection.deleteMany (FieldDocument.selects [])

end TargetEpochRepository

namespace EpochValidator

open TargetEpochRepository

def solutionExists (c : Collection FieldDocument) (epochNumber : ℤ) (salt mldsaPublicKey : Bytes) :
    Bool :=
  targetEpochExists c epochNumber salt mldsaPublicKey

/-- The document written for a validated solution. -/
def targetEpochOf (params : EpochValidationParams) (matchingBits : ℕ) (legacyPublicKey : Bytes) :
    ITargetEpochDocument where
  epochNumber := params.epochNumber
  salt := params.salt
  difficulty := matchingBits
  mldsaPublicKey := params.mldsaPublicKey
  legacyPublicKey := legacyPublicKey
  signature := params.signature
  graffiti := params.graffiti

def saveEpochSolution (params : EpochValidationParams) (matchingBits : ℕ)
    (legacyPublicKey : Bytes) : Collection FieldDocument → Collection FieldDocument :=
  saveTargetEpoch (targetEpochOf params matchingBits legacyPublicKey)

end EpochValidator

/-- A command on the collection. -/
inductive TargetEpochOperation where
  | saveEpochSolution (params : EpochValidationParams) (matchingBits : ℕ) (legacyPublicKey : Bytes)
  | deleteOldTargetEpochs (epochNumber : ℤ)
  | deleteAllTargetEpochs
  deriving DecidableEq, Repr

namespace TargetEpochOperation

def perform : TargetEpochOperation → Collection FieldDocument → Collection FieldDocument
  | saveEpochSolution params matchingBits legacyPublicKey =>
    EpochValidator.saveEpochSolution params matchingBits legacyPublicKey
  | deleteOldTargetEpochs epochNumber => TargetEpochRepository.deleteOldTargetEpochs epochNumber
  | deleteAllTargetEpochs => TargetEpochRepository.deleteAllTargetEpochs

/-- The collection after a sequence of commands on an empty one. -/
def runOperations (ops : List TargetEpochOperation) : Collection FieldDocument :=
  ops.foldl (fun c op => op.perform c) []

/-- The command saves a solution with this epoch, salt and key. -/
def Saves (epochNumber : ℤ) (salt mldsaPublicKey : Bytes) : TargetEpochOperation → Prop
  | saveEpochSolution params _ _ =>
    params.epochNumber = epochNumber ∧ params.salt = salt ∧ params.mldsaPublicKey = mldsaPublicKey
  | _ => False

/-- The command deletes the solutions of this epoch. -/
def Removes (epochNumber : ℤ) : TargetEpochOperation → Prop
  | saveEpochSolution _ _ _ => False
  | deleteOldTargetEpochs limit => epochNumber < limit
  | deleteAllTargetEpochs => True

/-- A solution with this epoch, salt and key was saved and not deleted since. -/
def SavedSince (ops : List TargetEpochOperation) (epochNumber : ℤ) (salt mldsaPublicKey : Bytes) :
    Prop :=
  ∃ before op after, ops = before ++ op :: after ∧ op.Saves epochNumber salt mldsaPublicKey ∧
    ∀ later ∈ after, ¬ later.Removes epochNumber

end TargetEpochOperation

end OpnetNode
