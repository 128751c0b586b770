import OpnetNode.Mldsa.Equiv.MLDSAPublicKeyRepository

/-!
# What a link request goes through

A request is checked by itself first (`wellSigned`), then against the pending maps and the collection.

* `linkSender_eq_recordRequest`, `wellSigned_of_linkSender`: a request gets to the second checks
  exactly when it is well signed, with the record `requestedKey`.
* `recordRequest_cases`, `linkSender_cases`: a request that is not refused is there already, or is
  put into the pending maps.
-/

namespace OpnetNode

open MLDSAPublicKeyRepository

namespace MLDSANode

/-- The checks on a request that reveals its ML-DSA key. -/
def revealsKey (env : LinkEnvironment) (originalKey : Bytes) (request : MLDSARequestData) : Bool :=
  let tweakedKey := env.tweakedPublicKey originalKey
  match request.publicKey, request.mldsaSignature with
  | some publicKey, some mldsaSignature =>
    decide (env.sha256 publicKey = request.hashedPublicKey) && decide (tweakedKey.length = 32)
      && decide (originalKey.length = 33)
      && env.verifyMLDSASignature publicKey request.level
        (linkMessage env request publicKey tweakedKey originalKey) mldsaSignature
  | _, _ => false

/-- The checks on a request that do not depend on the node. -/
def wellSigned (env : LinkEnvironment) (originalKey : Bytes) (request : MLDSARequestData) : Bool :=
  let tweakedKey := env.tweakedPublicKey originalKey
  decodes env request
    && env.verifySignature tweakedKey (linkMessage env request [] tweakedKey originalKey)
      request.legacySignature
    && (!request.verifyRequest || revealsKey env originalKey request)

/-- The record a request asks for. -/
def requestedKey (env : LinkEnvironment) (originalKey : Bytes) (request : MLDSARequestData)
    (height : ℕ) : MLDSAPublicKey where
  level := request.level
  hashedPublicKey := request.hashedPublicKey
  legacyPublicKey := originalKey
  tweakedPublicKey := env.tweakedPublicKey originalKey
  publicKey := if request.verifyRequest then request.publicKey else none
  insertedBlockHeight := some height
  exposedBlockHeight := if request.verifyRequest then some height else none

end MLDSANode

open MLDSANode

variable {env : LinkEnvironment}

variable {originalKey : Bytes} {request : MLDSARequestData}

theorem hashedPublicKey_length_of_wellSigned
    (h : wellSigned env originalKey request) : request.hashedPublicKey.length = 32 := by
  unfold wellSigned decodes at h
  simp only [Bool.and_eq_true, decide_eq_true_eq] at h
  exact h.1.1.1.1.2

/-- A request that reveals its key has the key and a signature of it, and passes the four checks. -/
theorem exists_of_revealsKey (h : revealsKey env originalKey request) :
    ∃ publicKey mldsaSignature, request.publicKey = some publicKey ∧
      request.mldsaSignature = some mldsaSignature ∧
      env.sha256 publicKey = request.hashedPublicKey ∧
      (env.tweakedPublicKey originalKey).length = 32 ∧ originalKey.length = 33 ∧
      env.verifyMLDSASignature publicKey request.level
        (linkMessage env request publicKey (env.tweakedPublicKey originalKey) originalKey)
        mldsaSignature = true := by
  unfold revealsKey at h
  cases hpublicKey : request.publicKey with
  | none => simp [hpublicKey] at h
  | some publicKey =>
    cases hsignature : request.mldsaSignature with
    | none => simp [hpublicKey, hsignature] at h
    | some mldsaSignature =>
      simp only [hpublicKey, hsignature, Bool.and_eq_true, decide_eq_true_eq] at h
      obtain ⟨⟨⟨hhash, htweaked⟩, horiginal⟩, hmldsa⟩ := h
      exact ⟨publicKey, mldsaSignature, rfl, rfl, hhash, htweaked, horiginal, hmldsa⟩

theorem linkSender_eq_recordRequest (h : wellSigned env originalKey request) (node : MLDSANode) :
    node.linkSender env originalKey request
      = node.recordRequest env request.verifyRequest
          (requestedKey env originalKey request node.height) := by
  unfold wellSigned at h
  simp only [Bool.and_eq_true, Bool.or_eq_true, Bool.not_eq_true'] at h
  obtain ⟨⟨hdecodes, hsigned⟩, hreveals⟩ := h
  unfold linkSender requestedKey
  simp only [hdecodes, hsigned, Bool.not_true, Bool.false_eq_true, if_false]
  cases hverify : request.verifyRequest with
  | false =>
    unfold addMLDSAInfoToStore
    simp
  | true =>
    rcases hreveals with hfalse | hreveals
    · cases hverify.symm.trans hfalse
    obtain ⟨publicKey, mldsaSignature, hpublicKey, hsignature, hhash, htweaked, horiginal, hmldsa⟩ :=
      exists_of_revealsKey hreveals
    unfold verifyMLDSASignature exposeMLDSAPublicKey
    simp [hpublicKey, hsignature, hhash, htweaked, horiginal, hmldsa]

variable {node node' : MLDSANode}

theorem wellSigned_of_linkSender (h : node.linkSender env originalKey request = .ok node') :
    wellSigned env originalKey request := by
  unfold linkSender at h
  dsimp only at h
  split at h
  · cases h
  rename_i hdecodes
  split at h
  · cases h
  rename_i hsigned
  rw [Bool.not_eq_true, Bool.not_eq_false'] at hdecodes hsigned
  unfold wellSigned
  cases hverify : request.verifyRequest with
  | false => simp [hdecodes, hsigned]
  | true =>
    rw [hverify, if_pos rfl] at h
    unfold verifyMLDSASignature at h
    unfold revealsKey
    split at h
    · cases h
    · cases h
    · rename_i publicKey mldsaSignature hpublicKey hsignature
      split at h
      · cases h
      split at h
      · cases h
      split at h
      · cases h
      split at h
      · cases h
      simp_all

variable {key : MLDSAPublicKey}

theorem recordRequest_cases {exposePublicKey : Bool}
    (h : node.recordRequest env exposePublicKey key = .ok node') :
    (node' = node ∧
        (node.validateMLDSALinkRequest env key = .ok false ∨
          node.shouldInsertMLDSAKey key.hashedPublicKey key.legacyPublicKey key.level
            exposePublicKey = .ok true)) ∨
      (node' = node.setPending env exposePublicKey key ∧
        node.validateMLDSALinkRequest env key = .ok true ∧
        node.shouldInsertMLDSAKey key.hashedPublicKey key.legacyPublicKey key.level exposePublicKey
          = .ok false) := by
  unfold recordRequest at h
  obtain ⟨goOn, hgoOn, h⟩ := exceptBind_eq_ok h
  cases goOn with
  | false => exact Or.inl ⟨(Except.ok.inj h).symm, Or.inl hgoOn⟩
  | true =>
    obtain ⟨present, hpresent, h⟩ := exceptBind_eq_ok h
    cases present with
    | true => exact Or.inl ⟨(Except.ok.inj h).symm, Or.inr hpresent⟩
    | false => exact Or.inr ⟨(Except.ok.inj h).symm, hgoOn, hpresent⟩

theorem recordRequest_eq_setPending {exposePublicKey : Bool}
    (hvalid : node.validateMLDSALinkRequest env key = .ok true)
    (hinsert : node.shouldInsertMLDSAKey key.hashedPublicKey key.legacyPublicKey key.level
      exposePublicKey = .ok false) :
    node.recordRequest env exposePublicKey key = .ok (node.setPending env exposePublicKey key) := by
  unfold recordRequest
  rw [hvalid]
  show (if !true then Except.ok node
    else do
      if ← node.shouldInsertMLDSAKey key.hashedPublicKey key.legacyPublicKey key.level
          exposePublicKey then Except.ok node
      else Except.ok (node.setPending env exposePublicKey key)) = _
  rw [if_neg (by simp), hinsert]
  rfl

/-- What a recorded request went through. -/
structure Recorded (env : LinkEnvironment) (node : MLDSANode) (senderPubKey : Bytes)
    (request : MLDSARequestData) (key : MLDSAPublicKey) : Prop where
  legacy_eq : key.legacyPublicKey = senderPubKey
  hashed_eq : key.hashedPublicKey = request.hashedPublicKey
  tweaked_eq : key.tweakedPublicKey = env.tweakedPublicKey senderPubKey
  inserted_eq : key.insertedBlockHeight = some node.height
  validated : node.validateMLDSALinkRequest env key = .ok true
  inserted : ∃ isExpose, node.shouldInsertMLDSAKey key.hashedPublicKey key.legacyPublicKey key.level
    isExpose = .ok false

theorem linkSender_cases {senderPubKey : Bytes}
    (h : node.linkSender env senderPubKey request = .ok node') :
    node' = node ∨
      ∃ exposePublicKey key, Recorded env node senderPubKey request key ∧
        node' = node.setPending env exposePublicKey key := by
  rw [linkSender_eq_recordRequest (wellSigned_of_linkSender h)] at h
  rcases recordRequest_cases h with ⟨heq, -⟩ | ⟨heq, hvalid, hinsert⟩
  · exact Or.inl heq
  · exact Or.inr ⟨_, _, ⟨rfl, rfl, rfl, rfl, hvalid, ⟨_, hinsert⟩⟩, heq⟩

theorem regenerateProvenance_snd (node : MLDSANode) (senderPubKey : Bytes) :
    (node.regenerateProvenance env senderPubKey).2
      = (node.getMLDSAPublicKeyFromLegacyKey (env.tweakedPublicKey senderPubKey)).2 := by
  unfold regenerateProvenance
  dsimp only
  split <;> (rename_i h; rw [h])

/-! ### The pending maps -/

theorem validateMLDSALinkRequest_eq_true (h : node.validateMLDSALinkRequest env key = .ok true) :
    node.mldsaToStore.get key.hashedPublicKey = none ∧
      node.mldsaToStoreLegacy.get (env.tweakedPublicKey key.legacyPublicKey) = none := by
  unfold validateMLDSALinkRequest at h
  dsimp only at h
  split at h
  · split at h <;> cases h
  · rename_i hnone
    split at h
    · cases h
    · rename_i hlegacy
      exact ⟨hnone, by simpa using hlegacy⟩

theorem validateMLDSALinkRequest_eq_false (h : node.validateMLDSALinkRequest env key = .ok false) :
    ∃ e, node.mldsaToStore.get key.hashedPublicKey = some e ∧
      e.data.legacyPublicKey = key.legacyPublicKey := by
  unfold validateMLDSALinkRequest at h
  dsimp only at h
  split at h
  · rename_i e hget
    split at h
    · rename_i hlegacy
      exact ⟨e, hget, hlegacy⟩
    · cases h
  · split at h
    · cases h
    · split at h <;> cases h

theorem validateMLDSALinkRequest_of_fresh
    (hhashed : node.mldsaToStore.get key.hashedPublicKey = none)
    (hlegacy : node.mldsaToStoreLegacy.get (env.tweakedPublicKey key.legacyPublicKey) = none)
    (hbyHash : node.mldsaToStoreByHash.get key.hashedPublicKey = none) :
    node.validateMLDSALinkRequest env key = .ok true := by
  unfold validateMLDSALinkRequest
  simp [hhashed, hlegacy, hbyHash]

/-- The pending maps list the same requests, and no two of them have the same hashed key. -/
structure PendingMaps (env : LinkEnvironment) (node : MLDSANode) (pending : List MLDSAUpdateData) :
    Prop where
  toStore : node.mldsaToStore = pending.map fun e => (e.data.hashedPublicKey, e)
  toStoreLegacy : node.mldsaToStoreLegacy
    = pending.map fun e => (env.tweakedPublicKey e.data.legacyPublicKey, e.data.hashedPublicKey)
  toStoreByHash : node.mldsaToStoreByHash
    = pending.map fun e => (e.data.hashedPublicKey, e.data.legacyPublicKey)
  hashed_inj : ∀ e ∈ pending, ∀ e' ∈ pending,
    e.data.hashedPublicKey = e'.data.hashedPublicKey → e = e'

namespace PendingMaps

variable {node : MLDSANode} {pending : List MLDSAUpdateData}

theorem toStore_eq_none (h : PendingMaps env node pending) (hashedPublicKey : Bytes) :
    node.mldsaToStore.get hashedPublicKey = none
      ↔ ∀ e ∈ pending, e.data.hashedPublicKey ≠ hashedPublicKey := by
  rw [h.toStore, AddressMap.get_map, Option.map_eq_none_iff, List.find?_eq_none]
  simp

theorem toStoreLegacy_eq_none (h : PendingMaps env node pending) (tweakedPublicKey : Bytes) :
    node.mldsaToStoreLegacy.get tweakedPublicKey = none
      ↔ ∀ e ∈ pending, env.tweakedPublicKey e.data.legacyPublicKey ≠ tweakedPublicKey := by
  rw [h.toStoreLegacy, AddressMap.get_map, Option.map_eq_none_iff, List.find?_eq_none]
  simp

theorem toStoreByHash_eq_none (h : PendingMaps env node pending) (hashedPublicKey : Bytes) :
    node.mldsaToStoreByHash.get hashedPublicKey = none
      ↔ ∀ e ∈ pending, e.data.hashedPublicKey ≠ hashedPublicKey := by
  rw [h.toStoreByHash, AddressMap.get_map, Option.map_eq_none_iff, List.find?_eq_none]
  simp

theorem map_snd (h : PendingMaps env node pending) : node.mldsaToStore.map Prod.snd = pending := by
  rw [h.toStore, List.map_map]
  exact List.map_id pending

theorem setPending (h : PendingMaps env node pending) {exposePublicKey : Bool}
    {key : MLDSAPublicKey} (hvalid : node.validateMLDSALinkRequest env key = .ok true) :
    PendingMaps env (node.setPending env exposePublicKey key)
      (pending ++ [⟨exposePublicKey, key⟩]) := by
  obtain ⟨hnone, hnoneLegacy⟩ := validateMLDSALinkRequest_eq_true hvalid
  have hfresh := (h.toStore_eq_none _).mp hnone
  have hnoneByHash := (h.toStoreByHash_eq_none _).mpr hfresh
  refine ⟨?_, ?_, ?_, ?_⟩
  · show node.mldsaToStore.set _ _ = _
    rw [AddressMap.set_of_get_eq_none hnone, h.toStore, List.map_append]
    rfl
  · show node.mldsaToStoreLegacy.set _ _ = _
    rw [AddressMap.set_of_get_eq_none hnoneLegacy, h.toStoreLegacy, List.map_append]
    rfl
  · show node.mldsaToStoreByHash.set _ _ = _
    rw [AddressMap.set_of_get_eq_none hnoneByHash, h.toStoreByHash, List.map_append]
    rfl
  · intro e he e' he' heq
    rcases List.mem_append.mp he with he | he <;> rcases List.mem_append.mp he' with he' | he'
    · exact h.hashed_inj e he e' he' heq
    · rw [List.mem_singleton.mp he'] at heq
      exact absurd heq (hfresh e he)
    · rw [List.mem_singleton.mp he] at heq
      exact absurd heq.symm (hfresh e' he')
    · rw [List.mem_singleton.mp he, List.mem_singleton.mp he']

end PendingMaps

end OpnetNode
