import OpnetNode.AddressMap

/-!
# The ML-DSA public key collection

An identity is a hash of an ML-DSA public key, chosen by the user who links it to a legacy
(secp256k1) key; the tweaked key is derived from the legacy key and is what a transaction is signed
with. The collection has a unique index on the hashed and on the legacy key, none on the tweaked
key.

* `savePublicKeys`: the bulk write at the end of a block.
* `getByHashedPublicKey`: the query for the record of a hashed key.
* `getByHashedOrLegacy`: the query that resolves a sender.
* `existence`: what the insertion checks ask (`exists` in the source).
* `deleteFromBlockHeight`/`deleteInRange`: the revert.
-/

namespace OpnetNode

inductive MLDSASecurityLevel where
  | LEVEL2
  | LEVEL3
  | LEVEL5
  deriving DecidableEq, Repr

/-- `IMLDSAPublicKey`. -/
structure MLDSAPublicKey where
  level : MLDSASecurityLevel
  hashedPublicKey : Bytes
  legacyPublicKey : Bytes
  tweakedPublicKey : Bytes
  publicKey : Option Bytes
  insertedBlockHeight : Option ℕ
  exposedBlockHeight : Option ℕ
  deriving DecidableEq, Repr

structure MLDSAPublicKeyDocument where
  level : MLDSASecurityLevel
  hashedPublicKey : Bytes
  legacyPublicKey : Bytes
  tweakedPublicKey : Bytes
  publicKey : Option Bytes
  insertedBlockHeight : ℕ
  exposedBlockHeight : Option ℕ
  deriving DecidableEq, Repr

structure MLDSAUpdateData where
  exposePublicKey : Bool
  data : MLDSAPublicKey
  deriving DecidableEq, Repr

structure MLDSAPublicKeyExists where
  hashedExists : Bool
  legacyExists : Bool
  sameId : Bool
  level : Option MLDSASecurityLevel
  publicKeyExists : Option Bool
  deriving DecidableEq, Repr

namespace MLDSAPublicKeyRepository

abbrev Keys := Collection MLDSAPublicKeyDocument

def parseResult (result : MLDSAPublicKeyDocument) : MLDSAPublicKey where
  level := result.level
  hashedPublicKey := result.hashedPublicKey
  legacyPublicKey := result.legacyPublicKey
  tweakedPublicKey := result.tweakedPublicKey
  publicKey := result.publicKey
  insertedBlockHeight := some result.insertedBlockHeight
  -- an exposure at height 0 reads as none
  exposedBlockHeight := result.exposedBlockHeight.filter fun height => height ≠ 0

def toDocument (key : MLDSAPublicKey) (insertedBlockHeight : ℕ) : MLDSAPublicKeyDocument where
  level := key.level
  hashedPublicKey := key.hashedPublicKey
  legacyPublicKey := key.legacyPublicKey
  tweakedPublicKey := key.tweakedPublicKey
  publicKey := key.publicKey
  insertedBlockHeight := insertedBlockHeight
  exposedBlockHeight := key.exposedBlockHeight.filter fun height => height ≠ 0

/-- `insertOne` under the two unique indexes. -/
def insertOne (document : MLDSAPublicKeyDocument) (keys : Keys) : Except String Keys :=
  if keys.any fun d => d.hashedPublicKey = document.hashedPublicKey
      ∨ d.legacyPublicKey = document.legacyPublicKey then
    .error "E11000 duplicate key error collection"
  else .ok (keys ++ [document])

/-- The filter of the exposing upsert. -/
def sameKeys (document d : MLDSAPublicKeyDocument) : Bool :=
  d.hashedPublicKey = document.hashedPublicKey ∧ d.legacyPublicKey = document.legacyPublicKey
    ∧ d.tweakedPublicKey = document.tweakedPublicKey

/-- One operation of the bulk write: insert a link, or set the exposed key on the link it belongs
to, inserting that link if it is not there. -/
def savePublicKey (keys : Keys) (key : MLDSAUpdateData) : Except String Keys :=
  match key.data.insertedBlockHeight with
  | none => .error "Inserted block height is required for new public keys"
  | some insertedBlockHeight =>
    let document := toDocument key.data insertedBlockHeight
    if !key.exposePublicKey then insertOne document keys
    else if document.legacyPublicKey.length ≠ 33 then
      .error "Legacy public key must be 33 bytes long"
    else if keys.any (sameKeys document) then
      .ok (keys.upsertOne (sameKeys document) (fun d =>
        { d with
          publicKey := document.publicKey
          exposedBlockHeight := document.exposedBlockHeight }) document)
    else insertOne document keys

def savePublicKeys (updates : List MLDSAUpdateData) (keys : Keys) : Except String Keys :=
  updates.foldlM savePublicKey keys

/-- The document of a hashed key, up to a height. -/
def getByHashedPublicKey (hashedPublicKey : Bytes) (blockHeight : ℕ) (keys : Keys) :
    Option MLDSAPublicKey :=
  (keys.find? fun d => decide (d.hashedPublicKey = hashedPublicKey)
    && decide (d.insertedBlockHeight ≤ blockHeight)).map parseResult

/-- The first document up to a height in which the key occurs, in any of its three roles. -/
def getByHashedOrLegacy (key : Bytes) (blockHeight : ℕ) (keys : Keys) : Option MLDSAPublicKey :=
  (keys.find? fun d => decide (d.insertedBlockHeight ≤ blockHeight)
    && (d.hashedPublicKey == key || d.legacyPublicKey == key || d.tweakedPublicKey == key)).map
    parseResult

/-- What is known of a hashed and a legacy key (`exists`); the position of a document stands for
its `_id`. -/
def existence (hashedPublicKey legacyPublicKey : Bytes) (keys : Keys) :
    Except String MLDSAPublicKeyExists :=
  if hashedPublicKey.length ≠ 32 ∨ legacyPublicKey.length ≠ 33 then
    .error "Invalid public key lengths provided to compare existence"
  else
    let hashedResult := keys.findIdx? fun d => d.hashedPublicKey = hashedPublicKey
    let legacyResult := keys.findIdx? fun d => d.legacyPublicKey = legacyPublicKey
    let sameId := hashedResult.isSome && legacyResult.isSome && hashedResult == legacyResult
    let document := if sameId then hashedResult.bind fun i => keys[i]? else none
    .ok {
      hashedExists := hashedResult.isSome
      legacyExists := legacyResult.isSome
      sameId := sameId
      level := document.map MLDSAPublicKeyDocument.level
      publicKeyExists := document.map fun d => d.exposedBlockHeight.isSome }

/-! ### Reverting -/

/-- Forget an exposed key. -/
def hideKey (d : MLDSAPublicKeyDocument) : MLDSAPublicKeyDocument :=
  { d with publicKey := none, exposedBlockHeight := none }

def nullPublicKeys (range : HeightRange) (keys : Keys) : Keys :=
  keys.updateMany (range.selects MLDSAPublicKeyDocument.exposedBlockHeight) hideKey

def deleteKeys (range : HeightRange) (keys : Keys) : Keys :=
  keys.deleteMany (range.selects fun d => some d.insertedBlockHeight)

def deleteFromBlockHeight (blockHeight : ℤ) (keys : Keys) : Keys :=
  deleteKeys (.atLeast blockHeight) (nullPublicKeys (.atLeast blockHeight) keys)

def deleteInRange (lo hi : ℤ) (keys : Keys) : Keys :=
  deleteKeys (.between lo hi) (nullPublicKeys (.between lo hi) keys)

end MLDSAPublicKeyRepository

end OpnetNode
