import OpnetNode.AddressMap
import Mathlib.Data.Multiset.Count
import Mathlib.Tactic.NormNum

/-!
# The Rust merkle tree and the byte encodings of its leaves

`RustMerkleTree` stands for the calls the node makes of the package `@btc-vision/rust-merkle-tree`.
What the node relies on is stated as separate properties, each taken as a hypothesis only where it
is used:

* `RootDeterminesLeaves`: the root determines the multiset of the leaves;
* `FindsProofs`: a tree of two leaves or more that can be built has a proof for each of them;
* `ProvesOwnLeaves`: a tree lists the hashes of its leaves in order and its own proofs verify;
* `SoundProofs`: what verifies against the root of a tree is the hash of one of its leaves.

`multisetTree` is a tree that has all of them, so that the hypotheses can be met together.
-/

namespace OpnetNode

/-- The calls of the Rust merkle tree.  A tree is given by its leaves; `none` is a call that
throws. -/
structure RustMerkleTree where
  Hash : Type
  /-- `MerkleTree.hash`. -/
  hash : Bytes → Hash
  /-- `new MerkleTree(leaves).root()`. -/
  root : List Bytes → Option Hash
  /-- `tree.hashes()`. -/
  hashes : List Bytes → List Hash
  /-- `tree.getIndexData(data)`. -/
  getIndexData : List Bytes → Bytes → Option Nat
  /-- `tree.getIndexHash(hash)`. -/
  getIndexHash : List Bytes → Hash → Option Nat
  /-- `tree.getProof(index).proofHashesHex()`. -/
  getProof : List Bytes → Nat → Option (List Hash)
  /-- `new MerkleProof(proof).verify(root, leafHash)`. -/
  verify : List Hash → Hash → Hash → Bool

namespace RustMerkleTree

def RootDeterminesLeaves (T : RustMerkleTree) : Prop :=
  ∀ leaves leaves' : List Bytes, ∀ r, T.root leaves = some r → T.root leaves' = some r →
    leaves.Perm leaves'

/-- A tree of two leaves or more can be built, lists the hashes of its leaves in the order it was
given them, finds the index of each, and its proofs verify against its root. -/
structure ProvesOwnLeaves (T : RustMerkleTree) : Prop where
  hashes_eq : ∀ leaves, T.hashes leaves = leaves.map T.hash
  getIndexHash_eq : ∀ (leaves : List Bytes) (i : Nat) (d : Bytes), leaves[i]? = some d →
    ∃ j, T.getIndexHash leaves (T.hash d) = some j ∧
      ∃ d', leaves[j]? = some d' ∧ T.hash d' = T.hash d
  verify_getProof : ∀ (leaves : List Bytes) (i : Nat) (d : Bytes), 2 ≤ leaves.length → leaves[i]? = some d →
    ∃ r π, T.root leaves = some r ∧ T.getProof leaves i = some π ∧
      T.verify π r (T.hash d) = true

/-- A tree of two leaves or more that can be built has a proof, which is not empty, for each of them.
The proof of a single leaf is empty, as the leaf is the root. -/
def FindsProofs (T : RustMerkleTree) : Prop :=
  ∀ leaves d, 2 ≤ leaves.length → (T.root leaves).isSome → d ∈ leaves →
    ∃ i π, T.getIndexData leaves d = some i ∧ T.getProof leaves i = some π ∧ π ≠ []

/-- What verifies against the root of a tree is the hash of one of its leaves, and of nothing
else. -/
def SoundProofs (T : RustMerkleTree) : Prop :=
  ∀ leaves r π d, T.root leaves = some r → T.verify π r (T.hash d) = true → d ∈ leaves

/-- The tree whose root is the multiset of its leaves: a hash is a multiset of byte strings, the hash
of a leaf is the leaf alone, and a proof says nothing. -/
def multisetTree : RustMerkleTree where
  Hash := Multiset Bytes
  hash d := {d}
  root leaves := some (leaves : Multiset Bytes)
  hashes leaves := leaves.map fun d => {d}
  getIndexData leaves d := leaves.findIdx? fun d' => d' = d
  getIndexHash leaves h := leaves.findIdx? fun d => ({d} : Multiset Bytes) = h
  getProof leaves i := if i < leaves.length then some [0] else none
  verify _ root leaf := decide (leaf ≤ root)

theorem findsProofs_multisetTree : multisetTree.FindsProofs := by
  intro leaves d _ _ hd
  obtain ⟨i, hi⟩ := Option.isSome_iff_exists.mp
    (show (leaves.findIdx? fun d' => d' = d).isSome from by simpa using hd)
  have hlt : i < leaves.length := by
    rw [List.findIdx?_eq_some_iff_getElem] at hi
    exact hi.1
  exact ⟨i, _, hi, if_pos hlt, List.cons_ne_nil _ _⟩

theorem rootDeterminesLeaves_multisetTree : multisetTree.RootDeterminesLeaves := by
  intro leaves leaves' r h h'
  have heq : (leaves : Multiset Bytes) = leaves' := Option.some.inj (h.trans h'.symm)
  exact Multiset.coe_eq_coe.mp heq

theorem root_multisetTree_of_perm {leaves leaves' : List Bytes} (h : leaves.Perm leaves') :
    multisetTree.root leaves = multisetTree.root leaves' :=
  congrArg some (Multiset.coe_eq_coe.mpr h)

theorem provesOwnLeaves_multisetTree : multisetTree.ProvesOwnLeaves where
  hashes_eq _ := rfl
  getIndexHash_eq := by
    intro leaves i d hi
    have hd : d ∈ leaves := List.mem_of_getElem? hi
    have hfound : ((leaves.findIdx? fun d' => ({d'} : Multiset Bytes) = {d})).isSome := by
      rw [List.findIdx?_isSome, List.any_eq_true]
      exact ⟨d, hd, by simp⟩
    obtain ⟨j, hj⟩ := Option.isSome_iff_exists.mp hfound
    refine ⟨j, hj, ?_⟩
    rw [List.findIdx?_eq_some_iff_getElem] at hj
    obtain ⟨hlt, heq, -⟩ := hj
    have hleaf : leaves[j] = d := by simpa using heq
    exact ⟨leaves[j], List.getElem?_eq_getElem hlt, by rw [hleaf]⟩
  verify_getProof := by
    intro leaves i d _ hi
    have hlt : i < leaves.length := (List.getElem?_eq_some_iff.mp hi).1
    refine ⟨(leaves : Multiset Bytes), [(0 : Multiset Bytes)], rfl, ?_, ?_⟩
    · simp [multisetTree, hlt]
    · simpa [multisetTree] using List.mem_of_getElem? hi

theorem soundProofs_multisetTree : multisetTree.SoundProofs := by
  intro leaves r π d hr hverify
  have hleaf : ({d} : Multiset Bytes) ≤ r := by simpa [multisetTree] using hverify
  obtain rfl : (leaves : Multiset Bytes) = r := Option.some.inj hr
  simpa using hleaf

end RustMerkleTree

/-! ### Fixed-width integers as bytes -/

/-- A `bigint` read as a 256-bit unsigned integer. -/
abbrev U256 := BitVec 256

/-- The `k` low bytes of `n`, the most significant first. -/
def toBigEndian : Nat → Nat → Bytes
  | 0, _ => []
  | k + 1, n => toBigEndian k (n / 256) ++ [UInt8.ofNat n]

@[simp] theorem length_toBigEndian (k n : Nat) : (toBigEndian k n).length = k := by
  induction k generalizing n with
  | zero => rfl
  | succ k ih => rw [toBigEndian, List.length_append, ih]; rfl

theorem eq_of_toBigEndian_eq {k n m : Nat} (hn : n < 256 ^ k) (hm : m < 256 ^ k)
    (h : toBigEndian k n = toBigEndian k m) : n = m := by
  induction k generalizing n m with
  | zero => omega
  | succ k ih =>
    rw [toBigEndian, toBigEndian] at h
    obtain ⟨hhigh, hlow⟩ := List.append_inj' h rfl
    have hlow' : n % 256 = m % 256 := by
      have hbyte : UInt8.ofNat n = UInt8.ofNat m := by simpa using hlow
      simpa [UInt8.toNat_ofNat] using congrArg UInt8.toNat hbyte
    have hhigh' : n / 256 = m / 256 := by
      apply ih _ _ hhigh
      · rw [pow_succ] at hn; omega
      · rw [pow_succ] at hm; omega
    omega

/-- The number that bytes stand for, the most significant first. -/
def ofBigEndian (bytes : Bytes) : Nat := bytes.foldl (fun n byte => n * 256 + byte.toNat) 0

theorem ofBigEndian_toBigEndian (k n : Nat) : ofBigEndian (toBigEndian k n) = n % 256 ^ k := by
  unfold ofBigEndian
  induction k generalizing n with
  | zero => simp [toBigEndian, Nat.mod_one]
  | succ k ih =>
    have hlast : (UInt8.ofNat n).toNat = n % 256 := UInt8.toNat_ofNat'
    have hsplit : n % (256 * 256 ^ k) = n % 256 + 256 * (n / 256 % 256 ^ k) := Nat.mod_mul
    rw [toBigEndian, List.foldl_append, ih, List.foldl_cons, List.foldl_nil, hlast, pow_succ',
      hsplit]
    omega

/-- `BufferHelper.pointerToUint8Array` and `BufferHelper.valueToUint8Array`. -/
def u256ToBytes (v : U256) : Bytes := toBigEndian 32 v.toNat

@[simp] theorem length_u256ToBytes (v : U256) : (u256ToBytes v).length = 32 :=
  length_toBigEndian 32 v.toNat

theorem u256ToBytes_injective : Function.Injective u256ToBytes := by
  intro v w h
  apply BitVec.eq_of_toNat_eq
  have hpow : (256 : Nat) ^ 32 = 2 ^ 256 := by norm_num
  exact eq_of_toBigEndian_eq (hpow ▸ v.isLt) (hpow ▸ w.isLt) h

end OpnetNode
