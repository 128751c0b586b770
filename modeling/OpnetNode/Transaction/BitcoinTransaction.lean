import OpnetNode.Merkle.RustMerkleTree

/-!
# Bitcoin transactions

A transaction as the Bitcoin library reads it off the wire, and the bytes it is written as.  Hashes
are in internal byte order: an id is shown with its bytes reversed.

* `toBuffer`: the transaction as bytes, with or without its witnesses.
* `getHash`, `getId`: the hashes of these bytes.
* `byteLength`, `weight`, `virtualSize`: their number.
* `TransactionLibrary`: the library's methods, and that they return these (`Documented`).
-/

namespace OpnetNode

/-- The largest amount of satoshis there can be. -/
def MAX_SATOSHI : ℕ := 2100000000000000

structure BitcoinInput where
  hash : Bytes
  index : ℕ
  script : Bytes
  sequence : ℕ
  witness : List Bytes
  deriving DecidableEq, Repr

structure BitcoinOutput where
  value : ℕ
  script : Bytes
  value_le : value ≤ MAX_SATOSHI
  deriving DecidableEq, Repr

structure BitcoinTransaction where
  version : ℕ
  ins : List BitcoinInput
  outs : List BitcoinOutput
  locktime : ℕ
  deriving DecidableEq, Repr

namespace BitcoinTransaction

/-- The `k` low bytes of `n`, the least significant first. -/
def littleEndian (k n : ℕ) : Bytes := (toBigEndian k n).reverse

/-- A number whose first byte tells how many bytes it takes. -/
def varuint (n : ℕ) : Bytes :=
  if n < 0xfd then littleEndian 1 n
  else if n ≤ 0xffff then 0xfd :: littleEndian 2 n
  else if n ≤ 0xffffffff then 0xfe :: littleEndian 4 n
  else 0xff :: littleEndian 8 n

/-- Bytes with their number before them. -/
def varSlice (bytes : Bytes) : Bytes := varuint bytes.length ++ bytes

def inputBytes (input : BitcoinInput) : Bytes :=
  input.hash ++ littleEndian 4 input.index ++ varSlice input.script ++
    littleEndian 4 input.sequence

def outputBytes (output : BitcoinOutput) : Bytes :=
  littleEndian 8 output.value ++ varSlice output.script

def witnessBytes (input : BitcoinInput) : Bytes :=
  varuint input.witness.length ++ input.witness.flatMap varSlice

def hasWitnesses (tx : BitcoinTransaction) : Bool :=
  tx.ins.any fun input => !input.witness.isEmpty

/-- The transaction as bytes; `withWitness` is whether the witnesses are among them. -/
def toBuffer (tx : BitcoinTransaction) (withWitness : Bool) : Bytes :=
  let witnesses := withWitness && tx.hasWitnesses
  littleEndian 4 tx.version ++ (if witnesses then [0x00, 0x01] else []) ++
    varuint tx.ins.length ++ tx.ins.flatMap inputBytes ++
    varuint tx.outs.length ++ tx.outs.flatMap outputBytes ++
    (if witnesses then tx.ins.flatMap witnessBytes else []) ++ littleEndian 4 tx.locktime

/-- Whether the one input spends nothing. -/
def isCoinbase (tx : BitcoinTransaction) : Bool :=
  decide (tx.ins.map BitcoinInput.hash = [List.replicate 32 0])

/-- The hash of a transaction, in internal byte order; a coinbase transaction has none over its
witness. -/
def getHash (hash256 : Bytes → Bytes) (tx : BitcoinTransaction) (forWitness : Bool) : Bytes :=
  if forWitness && tx.isCoinbase then List.replicate 32 0 else hash256 (tx.toBuffer forWitness)

/-- The id of a transaction, as it is shown. -/
def getId (hash256 : Bytes → Bytes) (tx : BitcoinTransaction) : Bytes :=
  (tx.getHash hash256 false).reverse

def byteLength (tx : BitcoinTransaction) : ℕ := (tx.toBuffer true).length

def weight (tx : BitcoinTransaction) : ℕ := (tx.toBuffer false).length * 3 + tx.byteLength

/-- A quarter of the weight, rounded up. -/
def virtualSize (tx : BitcoinTransaction) : ℕ := (tx.weight + 3) / 4

end BitcoinTransaction

/-- The methods of the Bitcoin library; `getHash` is asked for the hash over the witnesses. -/
structure TransactionLibrary where
  toBuffer : BitcoinTransaction → Bytes
  getHash : BitcoinTransaction → Bytes
  getId : BitcoinTransaction → Bytes
  byteLength : BitcoinTransaction → ℕ
  virtualSize : BitcoinTransaction → ℕ
  weight : BitcoinTransaction → ℕ

/-- The methods return of a transaction what their documentation says. -/
structure TransactionLibrary.Documented (lib : TransactionLibrary) (hash256 : Bytes → Bytes)
    (tx : BitcoinTransaction) : Prop where
  getHash : lib.getHash tx = tx.getHash hash256 true
  getId : lib.getId tx = tx.getId hash256
  byteLength : lib.byteLength tx = tx.byteLength
  virtualSize : lib.virtualSize tx = tx.virtualSize
  weight : lib.weight tx = tx.weight

end OpnetNode
