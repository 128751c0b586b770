import OpnetNode.Mldsa.Equiv.LinkRequest

/-!
# The record of one hashed key

The unique index leaves at most one document for each hashed key. What the collection's commands and
the insertion checks do is told here of this one document.

* `recordOf_savePublicKeys`: the completion of a block touches the records of the pending requests
  only, and gives each of them the key and the exposure of its request.
* `recordOf_deleteFromBlockHeight`: a revert hides the key of a record, or drops the record.
* `shouldInsertMLDSAKey_recordOf`: the insertion checks.
-/

namespace OpnetNode

open MLDSAPublicKeyRepository

def recordOf (hashedPublicKey : Bytes) (keys : Keys) : Option MLDSAPublicKeyDocument :=
  keys.find? fun d => d.hashedPublicKey = hashedPublicKey

variable {keys keys' : Keys}

variable {hashedPublicKey : Bytes}

variable {d : MLDSAPublicKeyDocument}

theorem mem_of_recordOf (h : recordOf hashedPublicKey keys = some d) :
    d ∈ keys ∧ d.hashedPublicKey = hashedPublicKey :=
  ⟨List.mem_of_find?_eq_some h, by simpa using List.find?_some h⟩

theorem recordOf_of_mem (hnodup : (keys.map MLDSAPublicKeyDocument.hashedPublicKey).Nodup)
    (h : d ∈ keys) : recordOf d.hashedPublicKey keys = some d :=
  IndexedCollection.lookup_of_mem (c := ⟨keys, hnodup⟩) h

theorem getByHashedPublicKey_eq {blockHeight : ℕ}
    (hheight : ∀ d ∈ keys, d.insertedBlockHeight ≤ blockHeight) (hashedPublicKey : Bytes) :
    getByHashedPublicKey hashedPublicKey blockHeight keys
      = (recordOf hashedPublicKey keys).map parseResult := by
  have hfilter : keys.filter (fun d => decide (d.insertedBlockHeight ≤ blockHeight)) = keys := by
    rw [List.filter_eq_self]
    intro d hd
    simpa using hheight d hd
  unfold getByHashedPublicKey recordOf
  conv_rhs => rw [← hfilter, List.find?_filter]
  congr 2
  funext d
  simp [Bool.and_comm]

/-! ### Saving -/

/-- What saving a request makes of the record of its key. -/
structure SavedRecord (key : MLDSAUpdateData) (old : Option MLDSAPublicKeyDocument)
    (d : MLDSAPublicKeyDocument) : Prop where
  legacy : d.legacyPublicKey = key.data.legacyPublicKey
  publicKey : d.publicKey = key.data.publicKey
  exposed : d.exposedBlockHeight = key.data.exposedBlockHeight.filter fun height => height ≠ 0
  inserted_new : old = none → key.data.insertedBlockHeight = some d.insertedBlockHeight
  inserted_old : ∀ d₀, old = some d₀ → d.insertedBlockHeight = d₀.insertedBlockHeight
  legacy_old : ∀ d₀, old = some d₀ → d₀.legacyPublicKey = key.data.legacyPublicKey

/-- What saving one request does: the index stays unique, the other records stay, and the request's
record is saved. -/
structure RecordSaved (key : MLDSAUpdateData) (keys keys' : Keys) : Prop where
  nodup : (keys'.map MLDSAPublicKeyDocument.hashedPublicKey).Nodup
  others : ∀ hashedPublicKey, hashedPublicKey ≠ key.data.hashedPublicKey →
    recordOf hashedPublicKey keys' = recordOf hashedPublicKey keys
  saved : ∃ d, recordOf key.data.hashedPublicKey keys' = some d ∧
    SavedRecord key (recordOf key.data.hashedPublicKey keys) d

variable {key : MLDSAUpdateData}

variable {insertedBlockHeight : ℕ}

theorem recordSaved_insertOne (hnodup : (keys.map MLDSAPublicKeyDocument.hashedPublicKey).Nodup)
    (hins : key.data.insertedBlockHeight = some insertedBlockHeight)
    (h : insertOne (toDocument key.data insertedBlockHeight) keys = .ok keys') :
    RecordSaved key keys keys' := by
  obtain ⟨rfl, hnew⟩ := insertOne_spec h
  have hnone : recordOf key.data.hashedPublicKey keys = none := by
    unfold recordOf
    rw [List.find?_eq_none]
    intro d hd
    have hne : d.hashedPublicKey ≠ key.data.hashedPublicKey := hnew d hd
    simpa using hne
  have happend : ∀ hashedPublicKey,
      recordOf hashedPublicKey (keys ++ [toDocument key.data insertedBlockHeight])
        = (recordOf hashedPublicKey keys).or
          (if key.data.hashedPublicKey = hashedPublicKey
            then some (toDocument key.data insertedBlockHeight) else none) := by
    intro hashedPublicKey
    unfold recordOf
    rw [List.find?_append, List.find?_singleton]
    simp [toDocument]
  refine ⟨?_, ?_, ?_⟩
  · rw [List.map_append, List.nodup_append_comm]
    apply List.nodup_cons.mpr
    refine ⟨?_, hnodup⟩
    intro hmem
    obtain ⟨d, hd, heq⟩ := List.mem_map.mp hmem
    exact hnew d hd heq
  · intro hashedPublicKey hne
    rw [happend, if_neg (Ne.symm hne), Option.or_none]
  · refine ⟨toDocument key.data insertedBlockHeight, ?_, ?_⟩
    · rw [happend, hnone, if_pos rfl, Option.none_or]
    · rw [hnone]
      refine ⟨rfl, rfl, rfl, fun _ => hins, ?_, ?_⟩
      · intro d₀ hold
        cases hold
      · intro d₀ hold
        cases hold

theorem recordSaved_upsertOne (hnodup : (keys.map MLDSAPublicKeyDocument.hashedPublicKey).Nodup)
    (hany : keys.any (sameKeys (toDocument key.data insertedBlockHeight))) :
    RecordSaved key keys
      (keys.upsertOne (sameKeys (toDocument key.data insertedBlockHeight)) (fun d =>
        { d with
          publicKey := (toDocument key.data insertedBlockHeight).publicKey
          exposedBlockHeight := (toDocument key.data insertedBlockHeight).exposedBlockHeight })
        (toDocument key.data insertedBlockHeight)) := by
  obtain ⟨d₀, hd₀, hsame⟩ := List.any_eq_true.mp hany
  have hsame₀ := hsame
  unfold sameKeys at hsame
  simp only [decide_eq_true_eq] at hsame
  obtain ⟨hhashed, hlegacy, -⟩ := hsame
  have hrecord : recordOf key.data.hashedPublicKey keys = some d₀ := by
    have h := recordOf_of_mem hnodup hd₀
    rwa [hhashed] at h
  -- the document the filter finds is the one with the hashed key
  have hfilter : ∀ d ∈ keys, sameKeys (toDocument key.data insertedBlockHeight) d
      = decide (d.hashedPublicKey = key.data.hashedPublicKey) := by
    intro d hd
    by_cases heq : d.hashedPublicKey = key.data.hashedPublicKey
    · have hd' := recordOf_of_mem hnodup hd
      rw [heq, hrecord] at hd'
      cases hd'
      rw [hsame₀, decide_eq_true heq]
    · rw [decide_eq_false heq]
      unfold sameKeys
      apply decide_eq_false
      intro h
      exact heq h.1
  rw [Collection.upsertOne_congr hfilter]
  let stored : IndexedCollection MLDSAPublicKeyDocument.hashedPublicKey := ⟨keys, hnodup⟩
  let expose : MLDSAPublicKeyDocument → MLDSAPublicKeyDocument := fun d =>
    { d with
      publicKey := (toDocument key.data insertedBlockHeight).publicKey
      exposedBlockHeight := (toDocument key.data insertedBlockHeight).exposedBlockHeight }
  let exposed := stored.upsert key.data.hashedPublicKey expose
    (toDocument key.data insertedBlockHeight) (fun _ => rfl) rfl
  have hlookup := IndexedCollection.lookup_upsert key.data.hashedPublicKey expose
    (toDocument key.data insertedBlockHeight) (fun _ => rfl) rfl stored
  refine ⟨exposed.nodup, ?_, ?_⟩
  · intro hashedPublicKey hne
    have h := hlookup hashedPublicKey
    rw [if_neg hne] at h
    exact h
  · have hold : stored.lookup key.data.hashedPublicKey = some d₀ := hrecord
    have h := hlookup key.data.hashedPublicKey
    rw [if_pos rfl, hold, Option.getD_some] at h
    refine ⟨expose d₀, h, ?_⟩
    rw [hrecord]
    refine ⟨hlegacy, rfl, rfl, ?_, ?_, ?_⟩
    · intro hold
      cases hold
    · intro d heq
      cases heq
      rfl
    · intro d heq
      cases heq
      exact hlegacy

theorem recordSaved_savePublicKey (hnodup : (keys.map MLDSAPublicKeyDocument.hashedPublicKey).Nodup)
    (h : savePublicKey keys key = .ok keys') : RecordSaved key keys keys' := by
  unfold savePublicKey at h
  cases hins : key.data.insertedBlockHeight with
  | none =>
    rw [hins] at h
    cases h
  | some insertedBlockHeight =>
    rw [hins] at h
    dsimp only at h
    split at h
    · exact recordSaved_insertOne hnodup hins h
    · split at h
      · cases h
      · split at h
        · rename_i hany
          cases h
          exact recordSaved_upsertOne hnodup hany
        · exact recordSaved_insertOne hnodup hins h

theorem recordOf_savePublicKeys {entries : AddressMap MLDSAUpdateData}
    (hnodup : (keys.map MLDSAPublicKeyDocument.hashedPublicKey).Nodup)
    (hentries : (entries.map Prod.fst).Nodup)
    (hhashed : ∀ entry ∈ entries, entry.1 = entry.2.data.hashedPublicKey)
    (h : savePublicKeys (entries.map Prod.snd) keys = .ok keys') :
    (keys'.map MLDSAPublicKeyDocument.hashedPublicKey).Nodup ∧
      ∀ hashedPublicKey,
        (entries.get hashedPublicKey = none →
          recordOf hashedPublicKey keys' = recordOf hashedPublicKey keys) ∧
        ∀ key, entries.get hashedPublicKey = some key →
          ∃ d, recordOf hashedPublicKey keys' = some d ∧
            SavedRecord key (recordOf hashedPublicKey keys) d := by
  unfold savePublicKeys at h
  induction entries generalizing keys with
  | nil =>
    cases h
    refine ⟨hnodup, ?_⟩
    intro hashedPublicKey
    refine ⟨fun _ => rfl, ?_⟩
    intro key hkey
    cases hkey
  | cons entry entries ih =>
    rw [List.map_cons, List.foldlM_cons] at h
    obtain ⟨keys₁, hsave, h⟩ := exceptBind_eq_ok h
    rw [List.map_cons, List.nodup_cons] at hentries
    rw [List.forall_mem_cons] at hhashed
    have hstep := recordSaved_savePublicKey hnodup hsave
    obtain ⟨hnodup', hrest⟩ := ih hstep.nodup hentries.2 hhashed.2 h
    refine ⟨hnodup', ?_⟩
    intro hashedPublicKey
    obtain ⟨hnone, hsome⟩ := hrest hashedPublicKey
    rw [AddressMap.get_cons]
    by_cases heq : entry.1 = hashedPublicKey
    · -- the entry's record is saved first, and the later entries are of other keys
      rw [if_pos heq]
      have hlater : AddressMap.get hashedPublicKey entries = none := by
        rw [AddressMap.get_eq_none_iff, ← heq]
        exact hentries.1
      refine ⟨by simp, ?_⟩
      intro key hkey
      cases hkey
      rw [hnone hlater, ← heq, hhashed.1]
      exact hstep.saved
    · rw [if_neg heq]
      have hother := hstep.others hashedPublicKey
        (fun hcontra => heq (hhashed.1.trans hcontra.symm))
      rw [hother] at hnone hsome
      exact ⟨hnone, hsome⟩

/-! ### Reverting -/

def revertedRecord (blockId : ℕ) (d : MLDSAPublicKeyDocument) : Option MLDSAPublicKeyDocument :=
  if d.insertedBlockHeight < blockId then
    some (if d.exposedBlockHeight.any (blockId ≤ ·) then hideKey d else d)
  else none

theorem recordOf_deleteFromBlockHeight
    (hnodup : (keys.map MLDSAPublicKeyDocument.hashedPublicKey).Nodup) (blockId : ℕ) :
    ((deleteFromBlockHeight blockId keys).map MLDSAPublicKeyDocument.hashedPublicKey).Nodup ∧
      ∀ hashedPublicKey, recordOf hashedPublicKey (deleteFromBlockHeight blockId keys)
        = (recordOf hashedPublicKey keys).bind (revertedRecord blockId) := by
  let hidden : IndexedCollection MLDSAPublicKeyDocument.hashedPublicKey :=
    IndexedCollection.updateMany
      ((HeightRange.atLeast blockId).selects MLDSAPublicKeyDocument.exposedBlockHeight) hideKey
      (fun _ => rfl) ⟨keys, hnodup⟩
  let left := hidden.deleteMany
    ((HeightRange.atLeast blockId).selects fun d => some d.insertedBlockHeight)
  refine ⟨left.nodup, ?_⟩
  intro hashedPublicKey
  have hleft := IndexedCollection.lookup_deleteMany
    ((HeightRange.atLeast blockId).selects fun d => some d.insertedBlockHeight) hidden
    hashedPublicKey
  have hhidden := IndexedCollection.lookup_updateMany
    ((HeightRange.atLeast blockId).selects MLDSAPublicKeyDocument.exposedBlockHeight) hideKey
    (fun _ => rfl) ⟨keys, hnodup⟩ hashedPublicKey
  rw [show hidden.lookup hashedPublicKey = _ from hhidden] at hleft
  refine Eq.trans hleft ?_
  show ((recordOf hashedPublicKey keys).map _).filter _ = _
  cases recordOf hashedPublicKey keys with
  | none => rfl
  | some d =>
    rw [Option.map_some, Option.bind_some]
    unfold revertedRecord Option.filter
    simp only [HeightRange.selects_atLeast, Option.any_some]
    by_cases hexposed : d.exposedBlockHeight.any (blockId ≤ ·) <;>
      by_cases hinserted : d.insertedBlockHeight < blockId <;>
      simp [hexposed, hinserted, hideKey]

/-! ### The insertion checks -/

theorem recordOf_of_findIdx? {i : ℕ}
    (h : keys.findIdx? (fun d => d.hashedPublicKey = hashedPublicKey) = some i) :
    ∃ d, keys[i]? = some d ∧ recordOf hashedPublicKey keys = some d := by
  obtain ⟨hi, hhashed, hbefore⟩ := List.findIdx?_eq_some_iff_getElem.mp h
  refine ⟨keys[i], List.getElem?_eq_getElem hi, ?_⟩
  unfold recordOf
  rw [List.find?_eq_some_iff_getElem]
  refine ⟨hhashed, i, hi, rfl, ?_⟩
  intro j hj
  simpa using hbefore j hj

/-- A request that passes the insertion checks is new to the collection, or its record is of the same
legacy key; it is there already if the record has all that is asked for. -/
theorem shouldInsertMLDSAKey_recordOf {legacyPublicKey : Bytes}
    {level : MLDSASecurityLevel} {isExpose exist : Bool} {node : MLDSANode}
    (h : node.shouldInsertMLDSAKey hashedPublicKey legacyPublicKey level isExpose = .ok exist) :
    (recordOf hashedPublicKey node.keys = none ∧ exist = false) ∨
      ∃ d, recordOf hashedPublicKey node.keys = some d ∧ d.legacyPublicKey = legacyPublicKey ∧
        exist = (!isExpose || d.exposedBlockHeight.isSome) := by
  obtain ⟨-, ⟨hexist, hnew⟩ | ⟨j, d, hindex, hd, -, hlegacy, -, hexist⟩⟩ :=
    shouldInsertMLDSAKey_cases h
  · left
    refine ⟨?_, hexist⟩
    unfold recordOf
    rw [List.find?_eq_none]
    exact fun d hd => by simpa using (hnew d hd).1
  · right
    obtain ⟨d', hd', hrecord⟩ := recordOf_of_findIdx? hindex
    cases hd.symm.trans hd'
    exact ⟨d, hrecord, hlegacy, hexist⟩

end OpnetNode
