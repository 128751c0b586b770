import OpnetNode.Indexer.ReorgWatchdog
import OpnetNode.Vm.Equiv.BlockHeaderValidator

/-!
# The last good block

* `LinkedChains`: the stored chain and the RPC's chain are hash-linked and share block 0, so they agree
  below any block they agree on (`agree_below`).
* `findMatchingHash_spec`, `findVerifiedProofs_spec`: where the two loops end.
* `restoresLastGood_iff`: the watchdog finds the last good block and announces a revert from the next
  height exactly if there is a good block.
* `restoresLastGood_allBad`: if no proofs validate the second loop ends at -1, and nothing is announced.
-/

namespace OpnetNode

namespace ReorgWatchdog

variable {T : RustMerkleTree} {w : ReorgWatchdog T}

def storedHash (w : ReorgWatchdog T) (b : ℕ) : Option HexText :=
  (w.getBlockHeader b).bind fun header => header.hash

/-- Below a block there is the one that its hash commits to. -/
def HashLinked (previousHash : HexText → HexText) (chain : ℕ → Option HexText) : Prop :=
  ∀ b hash, chain (b + 1) = some hash → chain b = some (previousHash hash)

/-- Both chains are hash-linked and share block 0. -/
structure LinkedChains (w : ReorgWatchdog T) (previousHash : HexText → HexText) : Prop where
  stored : HashLinked previousHash w.storedHash
  rpc : HashLinked previousHash w.getBlockHash
  hash_isSome : ∀ b header, w.getBlockHeader b = some header → header.hash.isSome
  genesis : ∃ hash, w.storedHash 0 = some hash ∧ w.getBlockHash 0 = some hash

/-- The checksum proofs of the stored header validate. -/
def Verified (w : ReorgWatchdog T) (b : ℕ) : Prop :=
  ∃ header, w.getBlockHeader b = some header ∧ w.validateBlockChecksum header = .ok true

/-- The stored hash is the RPC's, and the checksum proofs validate. -/
def Good (w : ReorgWatchdog T) (b : ℕ) : Prop :=
  (∃ hash, w.storedHash b = some hash ∧ w.getBlockHash b = some hash) ∧ w.Verified b

/-- The greatest good block below the tip, or 0 if there is none. -/
def IsLastGood (w : ReorgWatchdog T) (tip b : ℕ) : Prop :=
  (b < tip ∧ w.Good b ∧ ∀ m < tip, w.Good m → m ≤ b) ∨ (b = 0 ∧ ∀ m < tip, ¬ w.Good m)

/-- The way back ends at the last good block, and a revert is announced from the height after it; the
blocks that are kept are the RPC's. -/
def RestoresLastGood (w : ReorgWatchdog T) (tip : ℕ) : Prop :=
  ∃ b : ℕ, w.revertToLastGoodBlock tip = .ok b ∧ w.IsLastGood tip b
    ∧ w.restoreBlockchain tip = .ok ⟨b + 1, tip, w.storedHash b⟩
    ∧ ∀ m ≤ b, m < tip → w.storedHash m = w.getBlockHash m

/-! ### Linked chains -/

section Linked

variable {previousHash : HexText → HexText}

variable {b : ℕ} {hash : HexText}

theorem agree_below (hlinked : LinkedChains w previousHash) {m : ℕ} (hm : m ≤ b)
    (hstored : w.storedHash b = some hash) (hrpc : w.getBlockHash b = some hash) :
    ∃ hash', w.storedHash m = some hash' ∧ w.getBlockHash m = some hash' := by
  induction b generalizing hash with
  | zero =>
    obtain rfl : m = 0 := Nat.le_zero.mp hm
    exact ⟨hash, hstored, hrpc⟩
  | succ b ih =>
    rcases Nat.le_succ_iff.mp hm with hle | rfl
    · exact ih hle (hlinked.stored b hash hstored) (hlinked.rpc b hash hrpc)
    · exact ⟨hash, hstored, hrpc⟩

theorem storedHash_of_header (hlinked : LinkedChains w previousHash)
    {header : StoredBlockHeader T} (hheader : w.getBlockHeader b = some header) :
    ∃ hash, header.hash = some hash ∧ w.storedHash b = some hash := by
  obtain ⟨hash, hhash⟩ := Option.isSome_iff_exists.mp (hlinked.hash_isSome b header hheader)
  refine ⟨hash, hhash, ?_⟩
  rw [storedHash, hheader]
  exact hhash

theorem header_of_storedHash (h : w.storedHash b = some hash) :
    ∃ header, w.getBlockHeader b = some header ∧ header.hash = some hash :=
  Option.bind_eq_some_iff.mp h

theorem isSome_below (hlinked : LinkedChains w previousHash)
    (hrpc : (w.getBlockHash (b + 1)).isSome) (hheader : (w.getBlockHeader (b + 1)).isSome) :
    (w.getBlockHash b).isSome ∧ (w.getBlockHeader b).isSome := by
  obtain ⟨hash, hhash⟩ := Option.isSome_iff_exists.mp hrpc
  obtain ⟨header, hheader⟩ := Option.isSome_iff_exists.mp hheader
  obtain ⟨stored, -, hstored⟩ := storedHash_of_header hlinked hheader
  obtain ⟨below, hbelow, -⟩ := header_of_storedHash (hlinked.stored b stored hstored)
  rw [hlinked.rpc b hash hhash, hbelow]
  exact ⟨rfl, rfl⟩

/-! ### The loops -/

variable {height : ℕ}

theorem findMatchingHash_spec (hlinked : LinkedChains w previousHash)
    (hrpc : (w.getBlockHash height).isSome) (hheader : (w.getBlockHeader height).isSome) :
    ∃ b hash, w.findMatchingHash (height + 1) = .ok (some b) ∧ b ≤ height
      ∧ w.storedHash b = some hash ∧ w.getBlockHash b = some hash
      ∧ ∀ m, b < m → m ≤ height → w.storedHash m ≠ w.getBlockHash m := by
  induction height with
  | zero =>
    obtain ⟨hash, hstored, hgenesis⟩ := hlinked.genesis
    obtain ⟨header, hget, hhash⟩ := header_of_storedHash hstored
    refine ⟨0, hash, ?_, le_refl 0, hstored, hgenesis, fun m hm hle => by omega⟩
    simp only [findMatchingHash, hgenesis, hget, hhash, if_true]
  | succ height ih =>
    obtain ⟨current, hcurrent⟩ := Option.isSome_iff_exists.mp hrpc
    obtain ⟨header, hget⟩ := Option.isSome_iff_exists.mp hheader
    obtain ⟨stored, hhash, hstored⟩ := storedHash_of_header hlinked hget
    by_cases heq : stored = current
    · refine ⟨height + 1, current, ?_, le_refl _, heq ▸ hstored, hcurrent, fun m hm hle => by omega⟩
      simp only [findMatchingHash, hcurrent, hget, hhash, heq, if_true]
    · -- another block is stored: one height down
      obtain ⟨hrpc', hheader'⟩ := isSome_below hlinked hrpc hheader
      obtain ⟨b, hash, hfound, hb, hstored', hrpc', habove⟩ := ih hrpc' hheader'
      refine ⟨b, hash, ?_, by omega, hstored', hrpc', fun m hm hle => ?_⟩
      · rw [← hfound, findMatchingHash]
        have hne : header.hash ≠ some current := by
          rw [hhash]
          exact fun h => heq (Option.some.inj h)
        simp only [hcurrent, hget, if_neg hne]
      · rcases Nat.le_succ_iff.mp hle with hle | rfl
        · exact habove m hm hle
        · rw [hstored, hcurrent]
          exact fun h => heq (Option.some.inj h)

theorem findMatchingHash_error (h : w.getBlockHash height = none ∨ w.getBlockHeader height = none) :
    ∃ e, w.findMatchingHash (height + 1) = .error e := by
  rw [findMatchingHash]
  cases hrpc : w.getBlockHash height with
  | none => exact ⟨_, rfl⟩
  | some hash =>
    cases hheader : w.getBlockHeader height with
    | none => exact ⟨_, rfl⟩
    | some header =>
      rw [hrpc, hheader] at h
      simp at h

theorem verifiedProofs_eq_true {header : StoredBlockHeader T} :
    w.verifiedProofs header = true ↔ w.validateBlockChecksum header = .ok true := by
  unfold verifiedProofs
  cases w.validateBlockChecksum header with
  | error | ok => simp

theorem findVerifiedProofs_spec (hheaders : ∀ m ≤ b, (w.getBlockHeader m).isSome) :
    (∃ n ≤ b, w.findVerifiedProofs b = n ∧ w.Verified n ∧ ∀ m, n < m → m ≤ b → ¬ w.Verified m)
      ∨ (w.findVerifiedProofs b = -1 ∧ ∀ m ≤ b, ¬ w.Verified m) := by
  induction b with
  | zero =>
    obtain ⟨header, hget⟩ := Option.isSome_iff_exists.mp (hheaders 0 (le_refl 0))
    rw [findVerifiedProofs, hget]
    dsimp only
    by_cases hverified : w.verifiedProofs header = true
    · rw [if_pos hverified]
      exact .inl ⟨0, le_refl 0, rfl, ⟨header, hget, verifiedProofs_eq_true.mp hverified⟩,
        fun m hm hle => by omega⟩
    · rw [if_neg hverified]
      refine .inr ⟨rfl, fun m hm hbad => ?_⟩
      obtain ⟨header', hget', hvalid⟩ := hbad
      obtain rfl : m = 0 := Nat.le_zero.mp hm
      obtain rfl : header = header' := Option.some.inj (hget.symm.trans hget')
      exact hverified (verifiedProofs_eq_true.mpr hvalid)
  | succ b ih =>
    obtain ⟨header, hget⟩ := Option.isSome_iff_exists.mp (hheaders (b + 1) (le_refl _))
    rw [findVerifiedProofs, hget]
    dsimp only
    by_cases hverified : w.verifiedProofs header = true
    · rw [if_pos hverified]
      exact .inl ⟨b + 1, le_refl _, rfl, ⟨header, hget, verifiedProofs_eq_true.mp hverified⟩,
        fun m hm hle => by omega⟩
    · rw [if_neg hverified]
      have hnot : ¬ w.Verified (b + 1) := by
        rintro ⟨header', hget', hvalid⟩
        obtain rfl : header = header' := Option.some.inj (hget.symm.trans hget')
        exact hverified (verifiedProofs_eq_true.mpr hvalid)
      rcases ih fun m hm => hheaders m (by omega) with ⟨n, hn, hfound, hgood, habove⟩ | ⟨hfound, hbad⟩
      · refine .inl ⟨n, by omega, hfound, hgood, fun m hm hle => ?_⟩
        rcases Nat.le_succ_iff.mp hle with hle | rfl
        · exact habove m hm hle
        · exact hnot
      · refine .inr ⟨hfound, fun m hle => ?_⟩
        rcases Nat.le_succ_iff.mp hle with hle | rfl
        · exact hbad m hle
        · exact hnot

/-! ### The way back -/

theorem restoreBlockchain_eq_ok {tip : ℕ}
    (hrevert : w.revertToLastGoodBlock tip = .ok b) (hstored : w.storedHash b = some hash) :
    w.restoreBlockchain tip = .ok ⟨b + 1, tip, w.storedHash b⟩ := by
  obtain ⟨header, hget, hhash⟩ := header_of_storedHash hstored
  have hat : w.getBlockHeaderAt (b : ℤ) = some header := by
    rw [getBlockHeaderAt, if_neg (by omega), Int.toNat_natCast]
    exact hget
  rw [restoreBlockchain, hrevert]
  dsimp only
  rw [hat, hstored, ← hhash]

theorem revertToLastGoodBlock_spec (hlinked : LinkedChains w previousHash)
    (hrpc : (w.getBlockHash height).isSome) (hheader : (w.getBlockHeader height).isSome) :
    (∃ b : ℕ, w.revertToLastGoodBlock (height + 1) = .ok b ∧ b ≤ height ∧ w.Good b
        ∧ ∀ m ≤ height, w.Good m → m ≤ b)
      ∨ (w.revertToLastGoodBlock (height + 1) = .ok (-1) ∧ ∀ m ≤ height, ¬ w.Good m) := by
  obtain ⟨b, hash, hfound, hb, hstored, hhash, habove⟩ := findMatchingHash_spec hlinked hrpc hheader
  -- above the match the hashes differ, below it they agree
  have hbad : ∀ m, b < m → m ≤ height → ¬ w.Good m := by
    rintro m hm hle ⟨⟨hash', hstored', hrpc'⟩, -⟩
    exact habove m hm hle (hstored'.trans hrpc'.symm)
  have hheaders : ∀ m ≤ b, (w.getBlockHeader m).isSome := by
    intro m hm
    obtain ⟨hash', hstored', -⟩ := agree_below hlinked hm hstored hhash
    obtain ⟨header', hget', -⟩ := header_of_storedHash hstored'
    rw [hget']
    rfl
  have hrevert : w.revertToLastGoodBlock (height + 1) = .ok (w.findVerifiedProofs b) := by
    rw [revertToLastGoodBlock, hfound]
  rcases findVerifiedProofs_spec hheaders with ⟨n, hn, hend, hgood, hnot⟩ | ⟨hend, hnot⟩
  · refine .inl ⟨n, by rw [hrevert, hend], by omega,
      ⟨agree_below hlinked hn hstored hhash, hgood⟩, fun m hm hgood' => ?_⟩
    by_contra hlt
    rcases Nat.lt_or_ge b m with habove' | hbelow
    · exact hbad m habove' hm hgood'
    · exact hnot m (by omega) hbelow hgood'.2
  · refine .inr ⟨by rw [hrevert, hend], fun m hm hgood' => ?_⟩
    rcases Nat.lt_or_ge b m with habove' | hbelow
    · exact hbad m habove' hm hgood'
    · exact hnot m hbelow hgood'.2

/-- **Last good block.** The watchdog goes back to the greatest good block below the tip and announces a
revert from the height after it exactly if both chains reach the height below the tip and there is a good
block, or the tip is 0. -/
theorem restoresLastGood_iff (hlinked : LinkedChains w previousHash) (tip : ℕ) :
    RestoresLastGood w tip ↔ tip = 0 ∨ ((w.getBlockHash (tip - 1)).isSome
      ∧ (w.getBlockHeader (tip - 1)).isSome ∧ ∃ b < tip, w.Good b) := by
  cases tip with
  | zero =>
    refine iff_of_true ?_ (.inl rfl)
    obtain ⟨hash, hstored, hrpc⟩ := hlinked.genesis
    have hrevert : w.revertToLastGoodBlock 0 = .ok ((0 : ℕ) : ℤ) := rfl
    exact ⟨0, hrevert, .inr ⟨rfl, fun m hm => by omega⟩, restoreBlockchain_eq_ok hrevert hstored,
      fun m _ hm => by omega⟩
  | succ height =>
    rw [Nat.add_sub_cancel]
    constructor
    · rintro ⟨b, hrevert, hlast, -, -⟩
      right
      have hnotError : ∀ e, w.findMatchingHash (height + 1) ≠ .error e := by
        intro e he
        rw [revertToLastGoodBlock, he] at hrevert
        cases hrevert
      -- a block that one of the chains lacks would have thrown
      have hpresent : ¬ (w.getBlockHash height = none ∨ w.getBlockHeader height = none) := by
        intro hmissing
        obtain ⟨e, he⟩ := findMatchingHash_error hmissing
        exact hnotError e he
      rw [not_or, ← ne_eq, ← ne_eq, Option.ne_none_iff_isSome, Option.ne_none_iff_isSome] at hpresent
      refine ⟨hpresent.1, hpresent.2, ?_⟩
      rcases revertToLastGoodBlock_spec hlinked hpresent.1 hpresent.2 with
        ⟨n, -, hn, hgood, -⟩ | ⟨hend, -⟩
      · exact ⟨n, by omega, hgood⟩
      · -- the loop has ended below 0
        rw [hrevert, Except.ok.injEq] at hend
        omega
    · rintro (hzero | ⟨hrpc, hheader, n, hn, hgood⟩)
      · omega
      rcases revertToLastGoodBlock_spec hlinked hrpc hheader with ⟨b, hrevert, hb, hlast, hmax⟩ | ⟨-, hnone⟩
      · obtain ⟨⟨hash, hstored, hhash⟩, -⟩ := id hlast
        refine ⟨b, hrevert, .inl ⟨by omega, hlast, fun m hm => hmax m (by omega)⟩,
          restoreBlockchain_eq_ok hrevert hstored, fun m hm _ => ?_⟩
        obtain ⟨hash', hstored', hrpc'⟩ := agree_below hlinked hm hstored hhash
        rw [hstored', hrpc']
      · exact absurd hgood (hnone n (by omega))

end Linked

/-! ### Two blocks -/

def unprovenHeader (height : ℕ) (hash : HexText) : StoredBlockHeader RustMerkleTree.multisetTree where
  height := some height
  checksumRoot := some ['f']
  checksumProofs := none
  previousBlockHash := none
  previousBlockChecksum := none
  hash := some hash
  merkleRoot := some ['f']
  storageRoot := some ['f']
  receiptRoot := some ['f']

def twoHashes : ℕ → Option HexText
  | 0 => some ['a', 'a']
  | 1 => some ['b', 'b']
  | _ => none

/-- A watchdog on a stored chain of two blocks, which is also the RPC's; block 1 has no proofs. -/
def twoBlocks (genesis : Option (StoredBlockHeader RustMerkleTree.multisetTree)) :
    ReorgWatchdog RustMerkleTree.multisetTree where
  getBlockHash := twoHashes
  getBlockHeader
    | 0 => genesis
    | 1 => some (unprovenHeader 1 ['b', 'b'])
    | _ => none
  validateBlockChecksum := genesisValidator.validateBlockChecksum multisetCodec

theorem linkedChains_twoBlocks {genesis : StoredBlockHeader RustMerkleTree.multisetTree}
    (hhash : genesis.hash = some ['a', 'a']) :
    LinkedChains (twoBlocks (some genesis)) fun _ => ['a', 'a'] := by
  have hstored : (twoBlocks (some genesis)).storedHash = twoHashes := by
    funext b
    match b with
    | 0 => exact hhash
    | 1 => rfl
    | _ + 2 => rfl
  have hlinked : HashLinked (fun _ => ['a', 'a']) twoHashes := by
    intro b hash h
    match b with
    | 0 => rfl
    | _ + 1 => cases h
  refine ⟨hstored ▸ hlinked, hlinked, ?_, ['a', 'a'], by rw [hstored]; rfl, rfl⟩
  intro b header h
  match b with
  | 0 =>
    cases h
    rw [hhash]
    rfl
  | 1 =>
    cases h
    rfl
  | _ + 2 => cases h

/-- With a signed genesis block the way back from block 2 ends there. -/
theorem restoresLastGood_genesis : ∃ genesis, RestoresLastGood (twoBlocks (some genesis)) 2 := by
  have hprevious : genesisValidator.getPreviousBlockChecksumOfHeight genesisBlock.height =
    .ok ZERO_HASH := rfl
  obtain ⟨genesis, hsigned, hvalid⟩ := validateBlockChecksum_signBlock
    RustMerkleTree.provesOwnLeaves_multisetTree lawful_multisetCodec
    ⟨by decide, by decide, by decide, by decide⟩ (by decide) hprevious
  have hhash : genesis.hash = some ['a', 'a'] := by
    obtain ⟨r, proofs, -, rfl⟩ := ChecksumMerkle.signBlock_eq_some hsigned
    rfl
  refine ⟨genesis, (restoresLastGood_iff (linkedChains_twoBlocks hhash) 2).mpr
    (.inr ⟨rfl, rfl, 0, by omega, ⟨['a', 'a'], hhash, rfl⟩, genesis, rfl, hvalid⟩)⟩

/-- If no proofs validate the way back ends at -1, and no revert is announced. -/
theorem restoresLastGood_allBad :
    (twoBlocks (some (unprovenHeader 0 ['a', 'a']))).revertToLastGoodBlock 2 = .ok (-1)
      ∧ (twoBlocks (some (unprovenHeader 0 ['a', 'a']))).restoreBlockchain 2
        = .error .fetchingLastGoodBlockHeader
      ∧ ¬ ∀ (w : ReorgWatchdog RustMerkleTree.multisetTree) (previousHash : HexText → HexText),
        LinkedChains w previousHash → ∀ tip, (∀ b < tip, (w.getBlockHash b).isSome
          ∧ (w.getBlockHeader b).isSome) → RestoresLastGood w tip := by
  refine ⟨rfl, rfl, fun h => ?_⟩
  obtain ⟨b, hrevert, -⟩ := h (twoBlocks (some (unprovenHeader 0 ['a', 'a'])))
    (fun _ => ['a', 'a']) (linkedChains_twoBlocks rfl) 2 fun b hb => by
      match b with
      | 0 => exact ⟨rfl, rfl⟩
      | 1 => exact ⟨rfl, rfl⟩
  have hend : (twoBlocks (some (unprovenHeader 0 ['a', 'a']))).revertToLastGoodBlock 2 = .ok (-1) :=
    rfl
  rw [hend, Except.ok.injEq] at hrevert
  omega

end ReorgWatchdog

end OpnetNode
