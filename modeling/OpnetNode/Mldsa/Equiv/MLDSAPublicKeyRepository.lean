import OpnetNode.Mldsa.LinkRequest

/-!
# What the ML-DSA key collection's operations do

A record's `identity` is what it says about who somebody is: its three keys and its level.

* `saveStep_savePublicKey`: a saved request adds at most its own document and changes no identity.
* `shouldInsertMLDSAKey_eq_ok`: when a request passes the insertion checks.
* `mem_deleteFromBlockHeight`, `exists_mem_deleteFromBlockHeight`: a revert keeps the documents below
  its height, under their identities.
-/

namespace OpnetNode

open MLDSAPublicKeyRepository

/-- What a record says about who somebody is. -/
def MLDSAPublicKey.identity (key : MLDSAPublicKey) : Bytes × Bytes × Bytes × MLDSASecurityLevel :=
  (key.hashedPublicKey, key.legacyPublicKey, key.tweakedPublicKey, key.level)

def MLDSAPublicKeyDocument.identity (d : MLDSAPublicKeyDocument) :
    Bytes × Bytes × Bytes × MLDSASecurityLevel :=
  (parseResult d).identity

variable {d : MLDSAPublicKeyDocument}

variable {key : MLDSAPublicKey}

theorem hashedPublicKey_of_identity
    (h : d.identity = key.identity) : d.hashedPublicKey = key.hashedPublicKey :=
  congrArg Prod.fst h

variable {d' : MLDSAPublicKeyDocument}

theorem tweakedPublicKey_of_identity
    (h : d'.identity = d.identity) : d'.tweakedPublicKey = d.tweakedPublicKey :=
  congrArg (fun identity => identity.2.2.1) h

/-! ### Saving and checking -/

variable {keys keys' : Keys}

theorem insertOne_spec {document : MLDSAPublicKeyDocument}
    (h : insertOne document keys = .ok keys') :
    keys' = keys ++ [document] ∧ ∀ d ∈ keys, d.hashedPublicKey ≠ document.hashedPublicKey := by
  unfold insertOne at h
  split at h
  · cases h
  · rename_i hany
    refine ⟨(Except.ok.inj h).symm, ?_⟩
    intro d hd heq
    apply hany
    rw [List.any_eq_true]
    exact ⟨d, hd, by simp [heq]⟩

/-- What saving one request does to the documents: each keeps its identity and height, and the only
new document is the request's, if no document had its hashed key. -/
structure SaveStep (key : MLDSAPublicKey) (keys keys' : Keys) : Prop where
  old_or_new : ∀ d' ∈ keys',
    (∃ d ∈ keys, d'.identity = d.identity ∧ d'.insertedBlockHeight = d.insertedBlockHeight) ∨
      (d'.identity = key.identity ∧ key.insertedBlockHeight = some d'.insertedBlockHeight ∧
        ∀ d ∈ keys, d.hashedPublicKey ≠ key.hashedPublicKey)
  kept : ∀ d ∈ keys, ∃ d' ∈ keys', d'.identity = d.identity
  saved : ∃ d' ∈ keys', d'.tweakedPublicKey = key.tweakedPublicKey

theorem saveStep_insertOne {insertedBlockHeight : ℕ}
    (hins : key.insertedBlockHeight = some insertedBlockHeight)
    (h : insertOne (toDocument key insertedBlockHeight) keys = .ok keys') :
    SaveStep key keys keys' := by
  obtain ⟨rfl, hnew⟩ := insertOne_spec h
  refine ⟨?_, ?_, ?_⟩
  · intro d' hd'
    rcases List.mem_append.mp hd' with hd' | hd'
    · exact Or.inl ⟨d', hd', rfl, rfl⟩
    · obtain rfl := List.mem_singleton.mp hd'
      exact Or.inr ⟨rfl, hins, hnew⟩
  · intro d hd
    exact ⟨d, List.mem_append_left _ hd, rfl⟩
  · exact ⟨_, List.mem_append_right _ (List.mem_singleton_self _), rfl⟩

theorem saveStep_savePublicKey {key : MLDSAUpdateData}
    (h : savePublicKey keys key = .ok keys') : SaveStep key.data keys keys' := by
  unfold savePublicKey at h
  cases hins : key.data.insertedBlockHeight with
  | none => rw [hins] at h; cases h
  | some insertedBlockHeight =>
    rw [hins] at h
    dsimp only at h
    split at h
    · exact saveStep_insertOne hins h
    · split at h
      · cases h
      · split at h
        · -- the request exposes the key of a stored link
          rename_i hany
          cases h
          refine ⟨?_, ?_, ?_⟩
          · intro d' hd'
            rcases Collection.mem_upsertOne hany hd' with hd' | ⟨d, hd, -, rfl⟩
            · exact Or.inl ⟨d', hd', rfl, rfl⟩
            · exact Or.inl ⟨d, hd, rfl, rfl⟩
          · intro d hd
            rcases Collection.exists_mem_upsertOne hd with hd' | hd'
            · exact ⟨d, hd', rfl⟩
            · exact ⟨_, hd', rfl⟩
          · obtain ⟨d, hd, hsame⟩ := List.any_eq_true.mp hany
            have htweaked : d.tweakedPublicKey = key.data.tweakedPublicKey := by
              unfold sameKeys at hsame
              exact (of_decide_eq_true hsame).2.2
            rcases Collection.exists_mem_upsertOne hd with hd' | hd'
            · exact ⟨d, hd', htweaked⟩
            · exact ⟨_, hd', htweaked⟩
        · exact saveStep_insertOne hins h

variable {hashedPublicKey legacyPublicKey : Bytes} {level : MLDSASecurityLevel} {isExpose : Bool}
  {node : MLDSANode}

variable {exist : Bool}

/-- What a request that passes the insertion checks has found: neither of its keys, or both in the
document with its hashed key, of the same level. It is there already if this document has all that is
asked for. -/
theorem shouldInsertMLDSAKey_cases
    (h : node.shouldInsertMLDSAKey hashedPublicKey legacyPublicKey level isExpose = .ok exist) :
    legacyPublicKey.length = 33 ∧
      ((exist = false ∧ ∀ d ∈ node.keys,
          d.hashedPublicKey ≠ hashedPublicKey ∧ d.legacyPublicKey ≠ legacyPublicKey) ∨
        ∃ j d, node.keys.findIdx? (fun d => d.hashedPublicKey = hashedPublicKey) = some j ∧
          node.keys[j]? = some d ∧ d.hashedPublicKey = hashedPublicKey ∧
          d.legacyPublicKey = legacyPublicKey ∧ d.level = level ∧
          exist = (!isExpose || d.exposedBlockHeight.isSome)) := by
  unfold MLDSANode.shouldInsertMLDSAKey at h
  obtain ⟨result, hresult, h⟩ := exceptBind_eq_ok h
  unfold existence at hresult
  split at hresult
  · cases hresult
  rename_i hlen
  refine ⟨by omega, ?_⟩
  cases hresult
  dsimp only at h
  cases hlegacy : node.keys.findIdx? fun d => d.legacyPublicKey = legacyPublicKey with
  | none =>
    left
    rw [hlegacy] at h
    cases hhashed : node.keys.findIdx? fun d => d.hashedPublicKey = hashedPublicKey with
    | some j => rw [hhashed] at h; simp at h
    | none =>
      rw [hhashed] at h
      refine ⟨by simpa using h.symm, ?_⟩
      intro d hd
      have hno := List.findIdx?_eq_none_iff.mp hhashed d hd
      have hno' := List.findIdx?_eq_none_iff.mp hlegacy d hd
      exact ⟨by simpa using hno, by simpa using hno'⟩
  | some i =>
    right
    rw [hlegacy] at h
    cases hhashed : node.keys.findIdx? fun d => d.hashedPublicKey = hashedPublicKey with
    | none => rw [hhashed] at h; simp at h
    | some j =>
      rw [hhashed] at h
      -- both keys have to be those of one document
      by_cases hij : j = i
      · subst hij
        obtain ⟨hj, hleg, -⟩ := List.findIdx?_eq_some_iff_getElem.mp hlegacy
        obtain ⟨_, hhash, -⟩ := List.findIdx?_eq_some_iff_getElem.mp hhashed
        have hlevel : (node.keys[j]).level = level := by
          by_contra hlevel
          simp [hj, hlevel] at h
        refine ⟨j, node.keys[j], rfl, List.getElem?_eq_getElem hj, by simpa using hhash,
          by simpa using hleg, hlevel, ?_⟩
        cases isExpose with
        | false => simpa [hj, hlevel] using h.symm
        | true =>
          cases hexposed : (node.keys[j]).exposedBlockHeight with
          | none | some => simpa [hj, hlevel, hexposed] using h.symm
      · simp [hij] at h

/-- A request that passes the insertion checks is new to the collection in both keys, or has both in
one document of the same level. -/
theorem shouldInsertMLDSAKey_eq_ok
    (h : node.shouldInsertMLDSAKey hashedPublicKey legacyPublicKey level isExpose = .ok exist) :
    legacyPublicKey.length = 33 ∧
      ((exist = false ∧ ∀ d ∈ node.keys,
          d.hashedPublicKey ≠ hashedPublicKey ∧ d.legacyPublicKey ≠ legacyPublicKey) ∨
        ∃ d ∈ node.keys, d.hashedPublicKey = hashedPublicKey ∧
          d.legacyPublicKey = legacyPublicKey ∧ d.level = level) := by
  obtain ⟨hlength, hnew | ⟨j, d, -, hd, hhashed, hlegacy, hlevel, -⟩⟩ := shouldInsertMLDSAKey_cases h
  · exact ⟨hlength, Or.inl hnew⟩
  · exact ⟨hlength, Or.inr ⟨d, List.mem_of_getElem? hd, hhashed, hlegacy, hlevel⟩⟩

theorem shouldInsertMLDSAKey_of_fresh
    (hhashedLength : hashedPublicKey.length = 32) (hlegacyLength : legacyPublicKey.length = 33)
    (hfresh : ∀ d ∈ node.keys,
      d.hashedPublicKey ≠ hashedPublicKey ∧ d.legacyPublicKey ≠ legacyPublicKey) :
    node.shouldInsertMLDSAKey hashedPublicKey legacyPublicKey level isExpose = .ok false := by
  have hhashed : node.keys.findIdx? (fun d => d.hashedPublicKey = hashedPublicKey) = none := by
    rw [List.findIdx?_eq_none_iff]
    intro d hd
    simpa using (hfresh d hd).1
  have hlegacy : node.keys.findIdx? (fun d => d.legacyPublicKey = legacyPublicKey) = none := by
    rw [List.findIdx?_eq_none_iff]
    intro d hd
    simpa using (hfresh d hd).2
  have hexistence : existence hashedPublicKey legacyPublicKey node.keys
      = .ok ⟨false, false, false, none, none⟩ := by
    unfold existence
    rw [if_neg (by omega), hhashed, hlegacy]
    rfl
  unfold MLDSANode.shouldInsertMLDSAKey
  rw [hexistence]
  cases isExpose <;> rfl

/-! ### Reverting -/

variable {blockId : ℕ}

theorem mem_deleteFromBlockHeight (h : d' ∈ deleteFromBlockHeight blockId keys) :
    ∃ d ∈ keys, d'.identity = d.identity ∧ d'.insertedBlockHeight = d.insertedBlockHeight ∧
      d.insertedBlockHeight < blockId := by
  unfold deleteFromBlockHeight deleteKeys nullPublicKeys Collection.updateMany at h
  rw [Collection.mem_deleteMany, List.mem_map, HeightRange.selects_atLeast] at h
  obtain ⟨⟨d, hd, rfl⟩, hlt⟩ := h
  refine ⟨d, hd, ?_, ?_, ?_⟩
  · split <;> rfl
  · split <;> rfl
  · split at hlt <;> simpa [hideKey] using hlt

theorem exists_mem_deleteFromBlockHeight (h : d ∈ keys) (hlt : d.insertedBlockHeight < blockId) :
    ∃ d' ∈ deleteFromBlockHeight blockId keys, d'.identity = d.identity := by
  unfold deleteFromBlockHeight deleteKeys nullPublicKeys Collection.updateMany
  by_cases hexp : (HeightRange.atLeast blockId).selects MLDSAPublicKeyDocument.exposedBlockHeight d
  · refine ⟨hideKey d, ?_, rfl⟩
    rw [Collection.mem_deleteMany, List.mem_map, HeightRange.selects_atLeast]
    exact ⟨⟨d, h, by rw [if_pos hexp]⟩, by simpa [hideKey] using hlt⟩
  · refine ⟨d, ?_, rfl⟩
    rw [Collection.mem_deleteMany, List.mem_map, HeightRange.selects_atLeast]
    exact ⟨⟨d, h, by rw [if_neg hexp]⟩, by simpa using hlt⟩

end OpnetNode
