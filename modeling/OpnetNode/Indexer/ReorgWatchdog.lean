import OpnetNode.Vm.BlockHeaderValidator

/-!
# The reorg watchdog's way back

Once the watchdog has found a reorg it goes down from the processed block: first until a stored header
has the hash that the RPC reports, then until the checksum proofs of a header validate. Heights are
counted down in one variable, which can end below 0.
-/

namespace OpnetNode

/-- Errors thrown on the way back. -/
inductive WatchdogError where
  | fetchingBlockHash
  | fetchingBlockHeader
  | fetchingLastGoodBlockHeader
  deriving DecidableEq, Repr

/-- What the watchdog asks of the RPC, the storage and the header validator. -/
structure ReorgWatchdog (T : RustMerkleTree) where
  /-- Of the RPC client. -/
  getBlockHash : ℕ → Option HexText
  getBlockHeader : ℕ → Option (StoredBlockHeader T)
  validateBlockChecksum : StoredBlockHeader T → Except HeaderError Bool

/-- The reorg that the listeners are told about. -/
structure ReorgNotice where
  fromHeight : ℤ
  toHeight : ℤ
  newBest : Option HexText
  deriving DecidableEq, Repr

namespace ReorgWatchdog

variable {T : RustMerkleTree} (w : ReorgWatchdog T)

/-- The first loop, from the height below the given one on; `none` if it gets below 0. -/
def findMatchingHash : ℕ → Except WatchdogError (Option ℕ)
  | 0 => .ok none
  | previousBlock + 1 =>
    match w.getBlockHash previousBlock, w.getBlockHeader previousBlock with
    | none, _ => .error .fetchingBlockHash
    | some _, none => .error .fetchingBlockHeader
    | some currentBlockHash, some savedBlockHeader =>
      if savedBlockHeader.hash = some currentBlockHash then .ok (some previousBlock)
      else findMatchingHash previousBlock

/-- The checksum proofs of a header validate; an exception counts as a failure. -/
def verifiedProofs (opnetHeaders : StoredBlockHeader T) : Bool :=
  match w.validateBlockChecksum opnetHeaders with
  | .ok verified => verified
  | .error _ => false

/-- The second loop. Its condition `previousBlock-- > 0` counts down also when it ends the loop. -/
def findVerifiedProofs (previousBlock : ℕ) : ℤ :=
  match w.getBlockHeader previousBlock with
  | none => previousBlock
  | some opnetHeaders =>
    if w.verifiedProofs opnetHeaders then previousBlock
    else
      match previousBlock with
      | 0 => -1
      | below + 1 => findVerifiedProofs below

def revertToLastGoodBlock (height : ℕ) : Except WatchdogError ℤ :=
  match w.findMatchingHash height with
  | .error e => .error e
  | .ok none => .ok 0
  | .ok (some previousBlock) => .ok (w.findVerifiedProofs previousBlock)

/-- The stored header at a height, which may be negative. -/
def getBlockHeaderAt (height : ℤ) : Option (StoredBlockHeader T) :=
  if height < 0 then none else w.getBlockHeader height.toNat

/-- `restoreBlockchain`, up to the listeners. -/
def restoreBlockchain (tip : ℕ) : Except WatchdogError ReorgNotice :=
  match w.revertToLastGoodBlock tip with
  | .error e => .error e
  | .ok lastGoodBlock =>
    match w.getBlockHeaderAt lastGoodBlock with
    | none => .error .fetchingLastGoodBlockHeader
    | some lastGoodBlockHeader => .ok ⟨lastGoodBlock + 1, tip, lastGoodBlockHeader.hash⟩

end ReorgWatchdog

end OpnetNode
