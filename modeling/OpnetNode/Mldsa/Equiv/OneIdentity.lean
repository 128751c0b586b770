import Mathlib.Logic.Relator
import OpnetNode.Mldsa.Equiv.SenderResolution

/-!
# One identity per key

The records of a node, stored and pending, should pair the hashed keys with the tweaked keys one to
one. The pending maps are asked for the tweaked key of a request, which both parities of a legacy
key share; the collection is asked for the legacy key itself, and has no unique index on the tweaked
key.

* `OneToOne`: no two records share a key; a stored and a pending record may be the same one, whose
  ML-DSA key is being revealed.
* `LinksOwnParity`: a request that would be recorded does not come from the other parity of a stored
  key. `oneToOne_transaction_iff`: a request keeps the records one to one exactly when this is so.
* `identityInv_run`: the run lemma.
-/

namespace OpnetNode

open MLDSAPublicKeyRepository MLDSANode

/-! ### One-to-one records -/

/-- The three keys of a record. -/
structure LinkedKeys where
  hashedPublicKey : Bytes
  legacyPublicKey : Bytes
  tweakedPublicKey : Bytes
  deriving DecidableEq, Repr

namespace LinkedKeys

/-- Two records that have a key in common are the same. -/
def Compatible (k k' : LinkedKeys) : Prop :=
  k.hashedPublicKey = k'.hashedPublicKey ∨ k.legacyPublicKey = k'.legacyPublicKey
    ∨ k.tweakedPublicKey = k'.tweakedPublicKey → k = k'

theorem Compatible.symm {k k' : LinkedKeys} (h : k.Compatible k') : k'.Compatible k := by
  intro hshare
  apply Eq.symm
  apply h
  rcases hshare with hshare | hshare | hshare
  · exact Or.inl hshare.symm
  · exact Or.inr (Or.inl hshare.symm)
  · exact Or.inr (Or.inr hshare.symm)

theorem compatible_self (k : LinkedKeys) : k.Compatible k := fun _ => rfl

end LinkedKeys

/-- No two records share a key, but that a pending record may be a stored one. -/
structure OneToOne (stored pending : List LinkedKeys) : Prop where
  stored_nodup : stored.Nodup
  pending_nodup : pending.Nodup
  compatible : ∀ k ∈ stored ++ pending, ∀ k' ∈ stored ++ pending, k.Compatible k'

namespace OneToOne

variable {stored pending : List LinkedKeys}

theorem biUnique (h : OneToOne stored pending) :
    Relator.BiUnique fun hashedPublicKey tweakedPublicKey => ∃ k ∈ stored ++ pending,
      k.hashedPublicKey = hashedPublicKey ∧ k.tweakedPublicKey = tweakedPublicKey := by
  constructor
  · rintro hashed tweaked hashed' ⟨k, hk, rfl, htw⟩ ⟨k', hk', rfl, htw'⟩
    rw [h.compatible k hk k' hk' (Or.inr (Or.inr (htw.trans htw'.symm)))]
  · rintro hashed tweaked tweaked' ⟨k, hk, hhash, rfl⟩ ⟨k', hk', hhash', rfl⟩
    rw [h.compatible k hk k' hk' (Or.inl (hhash.trans hhash'.symm))]

variable {key : LinkedKeys}

theorem append_pending (h : OneToOne stored pending) (hnew : key ∉ pending)
    (hkey : ∀ k ∈ stored ++ pending, k.Compatible key) : OneToOne stored (pending ++ [key]) := by
  have hmem : ∀ k ∈ stored ++ (pending ++ [key]), k ∈ stored ++ pending ∨ k = key := by
    intro k hk
    simpa [or_assoc] using hk
  refine ⟨h.stored_nodup, ?_, ?_⟩
  · rw [List.nodup_append_comm]
    exact List.nodup_cons.mpr ⟨hnew, h.pending_nodup⟩
  · intro k hk k' hk'
    rcases hmem k hk with hold | heq <;> rcases hmem k' hk' with hold' | heq'
    · exact h.compatible k hold k' hold'
    · rw [heq']
      exact hkey k hold
    · rw [heq]
      exact (hkey k' hold').symm
    · rw [heq, heq']
      exact key.compatible_self

theorem save_new (h : OneToOne stored (key :: pending)) (hnew : key ∉ stored) :
    OneToOne (stored ++ [key]) pending := by
  have hmem : ∀ k, k ∈ (stored ++ [key]) ++ pending → k ∈ stored ++ key :: pending := by
    intro k hk
    simpa using hk
  refine ⟨?_, (List.nodup_cons.mp h.pending_nodup).2, ?_⟩
  · rw [List.nodup_append_comm]
    exact List.nodup_cons.mpr ⟨hnew, h.stored_nodup⟩
  · intro k hk k' hk'
    exact h.compatible k (hmem k hk) k' (hmem k' hk')

theorem save_stored (h : OneToOne stored (key :: pending)) : OneToOne stored pending := by
  have hmem : ∀ k, k ∈ stored ++ pending → k ∈ stored ++ key :: pending := by
    intro k hk
    rcases List.mem_append.mp hk with hk | hk
    · exact List.mem_append_left _ hk
    · exact List.mem_append_right _ (List.mem_cons_of_mem key hk)
  refine ⟨h.stored_nodup, (List.nodup_cons.mp h.pending_nodup).2, ?_⟩
  intro k hk k' hk'
  exact h.compatible k (hmem k hk) k' (hmem k' hk')

theorem revert {stored' : List LinkedKeys} (h : OneToOne stored pending)
    (hsub : stored'.Sublist stored) : OneToOne stored' [] := by
  refine ⟨h.stored_nodup.sublist hsub, List.nodup_nil, ?_⟩
  intro k hk k' hk'
  rw [List.append_nil] at hk hk'
  exact h.compatible k (List.mem_append_left _ (hsub.subset hk)) k'
    (List.mem_append_left _ (hsub.subset hk'))

end OneToOne

/-! ### The records of a node -/

def MLDSAPublicKey.linkedKeys (key : MLDSAPublicKey) : LinkedKeys :=
  ⟨key.hashedPublicKey, key.legacyPublicKey, key.tweakedPublicKey⟩

def MLDSAPublicKeyDocument.linkedKeys (d : MLDSAPublicKeyDocument) : LinkedKeys :=
  (parseResult d).linkedKeys

def MLDSANode.storedKeys (node : MLDSANode) : List LinkedKeys :=
  node.keys.map MLDSAPublicKeyDocument.linkedKeys

def MLDSANode.pendingKeys (node : MLDSANode) : List LinkedKeys :=
  node.mldsaToStore.map fun entry => entry.2.data.linkedKeys

/-- A request that is well signed and conflicts with nothing pending, by its hashed key or its
tweaked key, nor by its hashed key with a document, comes from a sender whose tweaked key is not
stored under another legacy key. -/
def LinksOwnParity (env : LinkEnvironment) (node : MLDSANode) (senderPubKey : Bytes)
    (request : MLDSARequestData) : Prop :=
  wellSigned env senderPubKey request → senderPubKey.length = 33 →
  (∀ k ∈ node.storedKeys ++ node.pendingKeys, k.hashedPublicKey ≠ request.hashedPublicKey) →
  (∀ k ∈ node.pendingKeys, k.tweakedPublicKey ≠ env.tweakedPublicKey senderPubKey) →
  ∀ k ∈ node.storedKeys, k.tweakedPublicKey = env.tweakedPublicKey senderPubKey →
    k.legacyPublicKey = senderPubKey

instance decidableLinksOwnParity (env : LinkEnvironment) (node : MLDSANode) (senderPubKey : Bytes)
    (request : MLDSARequestData) : Decidable (LinksOwnParity env node senderPubKey request) :=
  inferInstanceAs (Decidable (_ → _))

/-- The invariant of a history. -/
structure IdentityInv (env : LinkEnvironment) (node : MLDSANode) (pending : List MLDSAUpdateData) :
    Prop where
  maps : PendingMaps env node pending
  tweaked_eq : ∀ k ∈ node.storedKeys ++ node.pendingKeys,
    k.tweakedPublicKey = env.tweakedPublicKey k.legacyPublicKey
  oneToOne : OneToOne node.storedKeys node.pendingKeys

variable {env : LinkEnvironment} {node : MLDSANode} {pending : List MLDSAUpdateData}

theorem identityInv_init : IdentityInv env MLDSANode.init [] := by
  refine ⟨⟨rfl, rfl, rfl, ?_⟩, ?_, List.nodup_nil, List.nodup_nil, ?_⟩ <;> intros <;> contradiction

theorem pendingKeys_eq (h : PendingMaps env node pending) :
    node.pendingKeys = pending.map fun e => e.data.linkedKeys := by
  unfold MLDSANode.pendingKeys
  rw [h.toStore, List.map_map]
  rfl

/-! ### Requests -/

section Requests

variable {senderPubKey : Bytes} {request : MLDSARequestData}

theorem validateMLDSALinkRequest_iff (hinv : IdentityInv env node pending) (key : MLDSAPublicKey) :
    node.validateMLDSALinkRequest env key = .ok true ↔
      (∀ k ∈ node.pendingKeys, k.hashedPublicKey ≠ key.hashedPublicKey) ∧
        ∀ k ∈ node.pendingKeys, k.tweakedPublicKey ≠ env.tweakedPublicKey key.legacyPublicKey := by
  have htweaked : ∀ e ∈ pending,
      e.data.tweakedPublicKey = env.tweakedPublicKey e.data.legacyPublicKey := by
    intro e he
    apply hinv.tweaked_eq e.data.linkedKeys
    rw [pendingKeys_eq hinv.maps]
    exact List.mem_append_right _ (List.mem_map_of_mem he)
  rw [pendingKeys_eq hinv.maps, List.forall_mem_map, List.forall_mem_map]
  constructor
  · intro hvalid
    obtain ⟨hhashed, hlegacy⟩ := validateMLDSALinkRequest_eq_true hvalid
    refine ⟨(hinv.maps.toStore_eq_none _).mp hhashed, ?_⟩
    intro e he
    show e.data.tweakedPublicKey ≠ _
    rw [htweaked e he]
    exact (hinv.maps.toStoreLegacy_eq_none _).mp hlegacy e he
  · rintro ⟨hhashed, hlegacy⟩
    apply validateMLDSALinkRequest_of_fresh
    · exact (hinv.maps.toStore_eq_none _).mpr hhashed
    · apply (hinv.maps.toStoreLegacy_eq_none _).mpr
      intro e he
      rw [← htweaked e he]
      exact hlegacy e he
    · exact (hinv.maps.toStoreByHash_eq_none _).mpr hhashed

theorem compatible_of_recorded (hinv : IdentityInv env node pending)
    (hsigned : wellSigned env senderPubKey request)
    (hparity : LinksOwnParity env node senderPubKey request) {isExpose : Bool}
    (hvalid : node.validateMLDSALinkRequest env
      (requestedKey env senderPubKey request node.height) = .ok true)
    (hinsert : node.shouldInsertMLDSAKey request.hashedPublicKey senderPubKey request.level isExpose
      = .ok false) :
    ∀ k ∈ node.storedKeys ++ node.pendingKeys,
      k.Compatible (requestedKey env senderPubKey request node.height).linkedKeys := by
  obtain ⟨hhashed, htweaked⟩ := (validateMLDSALinkRequest_iff hinv _).mp hvalid
  -- two records with one legacy key have one tweaked key
  have hlegacy : ∀ k ∈ node.storedKeys ++ node.pendingKeys,
      k.tweakedPublicKey ≠ env.tweakedPublicKey senderPubKey →
      k.legacyPublicKey ≠ senderPubKey := by
    intro k hk hne heq
    apply hne
    rw [hinv.tweaked_eq k hk, heq]
  intro k hk
  rcases List.mem_append.mp hk with hstored | hpending
  · obtain ⟨hlength, ⟨-, hfresh⟩ | ⟨d, hd, hdhashed, hdlegacy, -⟩⟩ :=
      shouldInsertMLDSAKey_eq_ok hinsert
    · -- both keys are new to the collection: only the tweaked key may be there
      have hfresh : ∀ k ∈ node.storedKeys,
          k.hashedPublicKey ≠ request.hashedPublicKey ∧ k.legacyPublicKey ≠ senderPubKey :=
        List.forall_mem_map.mpr hfresh
      have hnew : ∀ k ∈ node.storedKeys ++ node.pendingKeys,
          k.hashedPublicKey ≠ request.hashedPublicKey := by
        intro k' hk'
        rcases List.mem_append.mp hk' with hk' | hk'
        · exact (hfresh k' hk').1
        · exact hhashed k' hk'
      rintro (heq | heq | heq)
      · exact absurd heq (hfresh k hstored).1
      · exact absurd heq (hfresh k hstored).2
      · have hown := hparity hsigned hlength hnew htweaked k hstored heq
        exact absurd hown (hfresh k hstored).2
    · -- the request is about the record of `d`
      have hmem : d.linkedKeys ∈ node.storedKeys ++ node.pendingKeys :=
        List.mem_append_left _ (List.mem_map_of_mem hd)
      have hdtweaked : d.tweakedPublicKey = env.tweakedPublicKey senderPubKey := by
        rw [← hdlegacy]
        exact hinv.tweaked_eq d.linkedKeys hmem
      have hsame : (requestedKey env senderPubKey request node.height).linkedKeys
          = d.linkedKeys := by
        unfold MLDSAPublicKeyDocument.linkedKeys MLDSAPublicKey.linkedKeys requestedKey parseResult
        rw [hdhashed, hdlegacy, hdtweaked]
      rw [hsame]
      exact hinv.oneToOne.compatible k hk d.linkedKeys hmem
  · rintro (heq | heq | heq)
    · exact absurd heq (hhashed k hpending)
    · exact absurd heq (hlegacy k hk (htweaked k hpending))
    · exact absurd heq (htweaked k hpending)

variable {exposePublicKey : Bool} {key : MLDSAPublicKey}

theorem pendingKeys_setPending (hinv : IdentityInv env node pending)
    (hvalid : node.validateMLDSALinkRequest env key = .ok true) :
    (node.setPending env exposePublicKey key).pendingKeys = node.pendingKeys ++ [key.linkedKeys] := by
  rw [pendingKeys_eq (hinv.maps.setPending hvalid), pendingKeys_eq hinv.maps, List.map_append]
  rfl

/-- Putting a request into the pending maps keeps the records one to one exactly when it conflicts
with no record. -/
theorem oneToOne_setPending_iff (hinv : IdentityInv env node pending)
    (hvalid : node.validateMLDSALinkRequest env key = .ok true) :
    OneToOne (node.setPending env exposePublicKey key).storedKeys
        (node.setPending env exposePublicKey key).pendingKeys
      ↔ ∀ k ∈ node.storedKeys ++ node.pendingKeys, k.Compatible key.linkedKeys := by
  rw [pendingKeys_setPending hinv hvalid]
  constructor
  · intro hone k hk
    have hk : k ∈ node.storedKeys ++ (node.pendingKeys ++ [key.linkedKeys]) := by
      rw [← List.append_assoc]
      exact List.mem_append_left _ hk
    exact hone.compatible k hk key.linkedKeys
      (List.mem_append_right _ (List.mem_append_right _ (List.mem_singleton_self _)))
  · intro hkey
    apply hinv.oneToOne.append_pending _ hkey
    intro hmem
    exact ((validateMLDSALinkRequest_iff hinv key).mp hvalid).1 key.linkedKeys hmem rfl

variable {node' : MLDSANode}

theorem linkSender_outcome (hinv : IdentityInv env node pending)
    (h : node.linkSender env senderPubKey request = .ok node') :
    (node' = node ∧ (requestedKey env senderPubKey request node.height).linkedKeys
        ∈ node.storedKeys ++ node.pendingKeys) ∨
      (wellSigned env senderPubKey request ∧
        node' = node.setPending env request.verifyRequest
          (requestedKey env senderPubKey request node.height) ∧
        node.validateMLDSALinkRequest env
          (requestedKey env senderPubKey request node.height) = .ok true ∧
        node.shouldInsertMLDSAKey request.hashedPublicKey senderPubKey request.level
          request.verifyRequest = .ok false) := by
  have hsigned := wellSigned_of_linkSender h
  rw [linkSender_eq_recordRequest hsigned] at h
  -- a stored or pending pair of both keys is the one that is asked for
  have hsame : ∀ k ∈ node.storedKeys ++ node.pendingKeys,
      k.hashedPublicKey = request.hashedPublicKey → k.legacyPublicKey = senderPubKey →
      (requestedKey env senderPubKey request node.height).linkedKeys
        ∈ node.storedKeys ++ node.pendingKeys := by
    intro k hk hhashed hlegacy
    have hkey : (requestedKey env senderPubKey request node.height).linkedKeys = k := by
      obtain ⟨hashed, legacy, tweaked⟩ := k
      have htweaked : tweaked = env.tweakedPublicKey legacy := hinv.tweaked_eq _ hk
      dsimp only at hhashed hlegacy
      unfold MLDSAPublicKey.linkedKeys requestedKey
      rw [htweaked, hhashed, hlegacy]
    rw [hkey]
    exact hk
  rcases recordRequest_cases h with ⟨rfl, hpending | hstored⟩ | ⟨rfl, hvalid, hinsert⟩
  · left
    obtain ⟨e, hget, hlegacy⟩ := validateMLDSALinkRequest_eq_false hpending
    rw [hinv.maps.toStore, AddressMap.get_map, Option.map_eq_some_iff] at hget
    obtain ⟨e', hfind, rfl⟩ := hget
    have hhashed : e'.data.hashedPublicKey
        = (requestedKey env senderPubKey request node'.height).hashedPublicKey := by
      simpa using List.find?_some hfind
    refine ⟨rfl, hsame e'.data.linkedKeys ?_ hhashed hlegacy⟩
    rw [pendingKeys_eq hinv.maps]
    exact List.mem_append_right _ (List.mem_map_of_mem (List.mem_of_find?_eq_some hfind))
  · left
    obtain ⟨-, ⟨hfalse, -⟩ | ⟨d, hd, hhashed, hlegacy, -⟩⟩ := shouldInsertMLDSAKey_eq_ok hstored
    · cases hfalse
    · refine ⟨rfl, hsame d.linkedKeys ?_ hhashed hlegacy⟩
      exact List.mem_append_left _ (List.mem_map_of_mem hd)
  · exact Or.inr ⟨hsigned, rfl, hvalid, hinsert⟩

theorem assignMLDSAToLegacy_of_error {e : String}
    (h : node.linkSender env senderPubKey request = .error e) :
    node.assignMLDSAToLegacy env senderPubKey (some request) = (.error e, node) := by
  unfold assignMLDSAToLegacy
  dsimp only
  rw [h]

theorem assignMLDSAToLegacy_of_ok (h : node.linkSender env senderPubKey request = .ok node') :
    (node.assignMLDSAToLegacy env senderPubKey (some request)).2 = node' := by
  unfold assignMLDSAToLegacy
  dsimp only
  rw [h]

/-- The defect: a request from the other parity of a stored key is recorded. -/
theorem linkSender_of_not_linksOwnParity (hinv : IdentityInv env node pending)
    (hparity : ¬ LinksOwnParity env node senderPubKey request) :
    node.linkSender env senderPubKey request
        = .ok (node.setPending env request.verifyRequest
          (requestedKey env senderPubKey request node.height)) ∧
      node.validateMLDSALinkRequest env
        (requestedKey env senderPubKey request node.height) = .ok true ∧
      ∃ k ∈ node.storedKeys,
        ¬ k.Compatible (requestedKey env senderPubKey request node.height).linkedKeys := by
  unfold LinksOwnParity at hparity
  push Not at hparity
  obtain ⟨hsigned, hlength, hhashed, htweaked, k, hk, hktweaked, hklegacy⟩ := hparity
  have hvalid : node.validateMLDSALinkRequest env
      (requestedKey env senderPubKey request node.height) = .ok true := by
    apply (validateMLDSALinkRequest_iff hinv _).mpr
    exact ⟨fun k' hk' => hhashed k' (List.mem_append_right _ hk'), htweaked⟩
  have hfresh : ∀ k' ∈ node.storedKeys,
      k'.hashedPublicKey ≠ request.hashedPublicKey ∧ k'.legacyPublicKey ≠ senderPubKey := by
    intro k' hk'
    have hmem : k' ∈ node.storedKeys ++ node.pendingKeys := List.mem_append_left _ hk'
    refine ⟨hhashed k' hmem, ?_⟩
    intro hlegacy
    have htweaked' : k'.tweakedPublicKey = k.tweakedPublicKey := by
      rw [hinv.tweaked_eq k' hmem, hlegacy, hktweaked]
    have heq : k' = k := hinv.oneToOne.compatible k' hmem k (List.mem_append_left _ hk)
      (Or.inr (Or.inr htweaked'))
    exact hklegacy (heq ▸ hlegacy)
  have hinsert : node.shouldInsertMLDSAKey request.hashedPublicKey senderPubKey request.level
      request.verifyRequest = .ok false :=
    shouldInsertMLDSAKey_of_fresh (hashedPublicKey_length_of_wellSigned hsigned) hlength
      (List.forall_mem_map.mp hfresh)
  refine ⟨?_, hvalid, k, hk, ?_⟩
  · rw [linkSender_eq_recordRequest hsigned]
    exact recordRequest_eq_setPending hvalid hinsert
  · intro hcompatible
    have heq := hcompatible (Or.inr (Or.inr hktweaked))
    exact hklegacy (congrArg LinkedKeys.legacyPublicKey heq)

/-- A transaction keeps the records one to one exactly when its request links the sender's own
parity. -/
theorem oneToOne_transaction_iff (hinv : IdentityInv env node pending) :
    OneToOne (node.assignMLDSAToLegacy env senderPubKey (some request)).2.storedKeys
        (node.assignMLDSAToLegacy env senderPubKey (some request)).2.pendingKeys
      ↔ LinksOwnParity env node senderPubKey request := by
  constructor
  · intro hone
    by_contra hparity
    obtain ⟨hlink, hvalid, k, hk, hconflict⟩ := linkSender_of_not_linksOwnParity hinv hparity
    rw [assignMLDSAToLegacy_of_ok hlink] at hone
    exact hconflict ((oneToOne_setPending_iff hinv hvalid).mp hone k (List.mem_append_left _ hk))
  · intro hparity
    cases hlink : node.linkSender env senderPubKey request with
    | error e =>
      rw [assignMLDSAToLegacy_of_error hlink]
      exact hinv.oneToOne
    | ok node' =>
      rw [assignMLDSAToLegacy_of_ok hlink]
      rcases linkSender_outcome hinv hlink with ⟨rfl, -⟩ | ⟨hsigned, rfl, hvalid, hinsert⟩
      · exact hinv.oneToOne
      · exact (oneToOne_setPending_iff hinv hvalid).mpr
          (compatible_of_recorded hinv hsigned hparity hvalid hinsert)

theorem assignMLDSAToLegacy_of_conflict (hinv : IdentityInv env node pending)
    (hparity : LinksOwnParity env node senderPubKey request)
    (hconflict : ∃ k ∈ node.storedKeys ++ node.pendingKeys,
      ¬ k.Compatible (requestedKey env senderPubKey request node.height).linkedKeys) :
    ∃ e, node.assignMLDSAToLegacy env senderPubKey (some request) = (.error e, node) := by
  obtain ⟨k, hk, hconflict⟩ := hconflict
  cases hlink : node.linkSender env senderPubKey request with
  | error e => exact ⟨e, assignMLDSAToLegacy_of_error hlink⟩
  | ok node' =>
    exfalso
    apply hconflict
    rcases linkSender_outcome hinv hlink with ⟨-, hmem⟩ | ⟨hsigned, -, hvalid, hinsert⟩
    · exact hinv.oneToOne.compatible k hk _ hmem
    · exact compatible_of_recorded hinv hsigned hparity hvalid hinsert k hk

theorem identityInv_transaction (hinv : IdentityInv env node pending)
    (hparity : LinksOwnParity env node senderPubKey request) :
    ∃ pending', IdentityInv env (node.assignMLDSAToLegacy env senderPubKey (some request)).2
      pending' := by
  have hone := (oneToOne_transaction_iff hinv).mpr hparity
  cases hlink : node.linkSender env senderPubKey request with
  | error e =>
    rw [assignMLDSAToLegacy_of_error hlink]
    exact ⟨pending, hinv⟩
  | ok node' =>
    rw [assignMLDSAToLegacy_of_ok hlink] at hone ⊢
    rcases linkSender_outcome hinv hlink with ⟨rfl, -⟩ | ⟨-, rfl, hvalid, -⟩
    · exact ⟨pending, hinv⟩
    · refine ⟨_, hinv.maps.setPending hvalid, ?_, hone⟩
      intro k hk
      rw [pendingKeys_setPending hinv hvalid, ← List.append_assoc] at hk
      rcases List.mem_append.mp hk with hk | hk
      · exact hinv.tweaked_eq k hk
      · rw [List.mem_singleton.mp hk]
        rfl

theorem identityInv_regenerateProvenance (hinv : IdentityInv env node pending) :
    IdentityInv env (node.regenerateProvenance env senderPubKey).2 pending := by
  rw [regenerateProvenance_snd]
  unfold getMLDSAPublicKeyFromLegacyKey
  split
  · exact hinv
  · split
    · exact hinv
    · -- only the cache changes
      obtain ⟨⟨h1, h2, h3, h4⟩, htweaked, hone⟩ := hinv
      exact ⟨⟨h1, h2, h3, h4⟩, htweaked, hone⟩

end Requests

/-! ### Completing a block, and reverting -/

variable {keys keys' : Keys}

theorem savePublicKey_linkedKeys {key : MLDSAUpdateData} (h : savePublicKey keys key = .ok keys') :
    keys'.map MLDSAPublicKeyDocument.linkedKeys = keys.map MLDSAPublicKeyDocument.linkedKeys ∨
      (keys'.map MLDSAPublicKeyDocument.linkedKeys
          = keys.map MLDSAPublicKeyDocument.linkedKeys ++ [key.data.linkedKeys] ∧
        key.data.linkedKeys ∉ keys.map MLDSAPublicKeyDocument.linkedKeys) := by
  have hinsert : ∀ insertedBlockHeight, insertOne (toDocument key.data insertedBlockHeight) keys
        = .ok keys' →
      keys'.map MLDSAPublicKeyDocument.linkedKeys
          = keys.map MLDSAPublicKeyDocument.linkedKeys ++ [key.data.linkedKeys] ∧
        key.data.linkedKeys ∉ keys.map MLDSAPublicKeyDocument.linkedKeys := by
    intro insertedBlockHeight h
    obtain ⟨rfl, hnew⟩ := insertOne_spec h
    refine ⟨by rw [List.map_append]; rfl, ?_⟩
    intro hmem
    obtain ⟨d, hd, heq⟩ := List.mem_map.mp hmem
    exact hnew d hd (congrArg LinkedKeys.hashedPublicKey heq)
  unfold savePublicKey at h
  split at h
  · cases h
  · dsimp only at h
    split at h
    · exact Or.inr (hinsert _ h)
    · split at h
      · cases h
      · split at h
        · rename_i hany
          cases h
          left
          apply Collection.map_upsertOne_of_any _ hany
          intro d
          rfl
        · exact Or.inr (hinsert _ h)

theorem oneToOne_savePublicKeys {updates : List MLDSAUpdateData}
    (hone : OneToOne (keys.map MLDSAPublicKeyDocument.linkedKeys)
      (updates.map fun e => e.data.linkedKeys))
    (htweaked : ∀ k ∈ keys.map MLDSAPublicKeyDocument.linkedKeys
      ++ updates.map (fun e => e.data.linkedKeys),
      k.tweakedPublicKey = env.tweakedPublicKey k.legacyPublicKey)
    (hsave : savePublicKeys updates keys = .ok keys') :
    OneToOne (keys'.map MLDSAPublicKeyDocument.linkedKeys) [] ∧
      ∀ k ∈ keys'.map MLDSAPublicKeyDocument.linkedKeys,
        k.tweakedPublicKey = env.tweakedPublicKey k.legacyPublicKey := by
  unfold savePublicKeys at hsave
  induction updates generalizing keys with
  | nil =>
    cases hsave
    refine ⟨hone, ?_⟩
    intro k hk
    exact htweaked k (List.mem_append_left _ hk)
  | cons e updates ih =>
    rw [List.foldlM_cons] at hsave
    obtain ⟨keys₁, hsave₁, hsave⟩ := exceptBind_eq_ok hsave
    rw [List.map_cons] at hone htweaked
    rcases savePublicKey_linkedKeys hsave₁ with heq | ⟨heq, hnew⟩
    · rw [← heq] at hone htweaked
      apply ih hone.save_stored _ hsave
      intro k hk
      apply htweaked k
      rcases List.mem_append.mp hk with hk | hk
      · exact List.mem_append_left _ hk
      · exact List.mem_append_right _ (List.mem_cons_of_mem _ hk)
    · have hone' := hone.save_new hnew
      rw [← heq] at hone'
      apply ih hone' _ hsave
      intro k hk
      apply htweaked k
      rw [heq] at hk
      simpa using hk

theorem identityInv_completeBlock (hinv : IdentityInv env node pending)
    (hsave : savePublicKeys (node.mldsaToStore.map Prod.snd) node.keys = .ok keys) :
    IdentityInv env { node.clear with keys := keys, height := node.height + 1 } [] := by
  have hone := hinv.oneToOne
  have htweaked := hinv.tweaked_eq
  rw [pendingKeys_eq hinv.maps] at hone htweaked
  rw [hinv.maps.map_snd] at hsave
  obtain ⟨hone', htweaked'⟩ := oneToOne_savePublicKeys hone htweaked hsave
  refine ⟨⟨rfl, rfl, rfl, ?_⟩, ?_, hone'⟩
  · intro e he
    cases he
  · intro k hk
    have hk : k ∈ keys.map MLDSAPublicKeyDocument.linkedKeys ++ [] := hk
    rw [List.append_nil] at hk
    exact htweaked' k hk

theorem linkedKeys_deleteFromBlockHeight (blockId : ℕ) (keys : Keys) :
    ((deleteFromBlockHeight blockId keys).map MLDSAPublicKeyDocument.linkedKeys).Sublist
      (keys.map MLDSAPublicKeyDocument.linkedKeys) := by
  have hkept : (nullPublicKeys (.atLeast blockId) keys).map MLDSAPublicKeyDocument.linkedKeys
      = keys.map MLDSAPublicKeyDocument.linkedKeys := by
    unfold nullPublicKeys Collection.updateMany
    rw [List.map_map]
    apply List.map_congr_left
    intro d _
    dsimp only [Function.comp_apply]
    split <;> rfl
  rw [← hkept]
  exact List.filter_sublist.map _

theorem identityInv_revertDataUntilBlock (hinv : IdentityInv env node pending) (blockId : ℕ) :
    IdentityInv env
      { node.clear with
        keys := deleteFromBlockHeight blockId node.keys
        height := blockId
        links := node.links.filter fun link => link.insertedBlockHeight.any (· < blockId) } [] := by
  have hsub := linkedKeys_deleteFromBlockHeight blockId node.keys
  refine ⟨⟨rfl, rfl, rfl, ?_⟩, ?_, hinv.oneToOne.revert hsub⟩
  · intro e he
    cases he
  · intro k hk
    have hk : k ∈ (deleteFromBlockHeight blockId node.keys).map
        MLDSAPublicKeyDocument.linkedKeys ++ [] := hk
    rw [List.append_nil] at hk
    exact hinv.tweaked_eq k (List.mem_append_left _ (hsub.subset hk))

/-! ### Histories -/

/-- The side condition on a history's events. -/
def parityOk (env : LinkEnvironment) (node : MLDSANode) : MLDSAEvent → Prop
  | .transaction senderPubKey (some request) => LinksOwnParity env node senderPubKey request
  | .transaction _ none => True
  | .completeBlock => True
  | .revertDataUntilBlock _ => True

instance decidableParityOk (env : LinkEnvironment) (node : MLDSANode) :
    ∀ event, Decidable (parityOk env node event)
  | .transaction senderPubKey (some request) =>
    decidableLinksOwnParity env node senderPubKey request
  | .transaction _ none => isTrue trivial
  | .completeBlock => isTrue trivial
  | .revertDataUntilBlock _ => isTrue trivial

theorem identityInv_step {node node' : MLDSANode} {event : MLDSAEvent}
    (hinv : ∃ pending, IdentityInv env node pending) (hok : parityOk env node event)
    (hstep : mldsaStep env node event = some node') :
    ∃ pending, IdentityInv env node' pending := by
  obtain ⟨pending, hinv⟩ := hinv
  cases event with
  | transaction senderPubKey mldsaLinkRequest =>
    rw [mldsaStep] at hstep
    cases hstep
    cases mldsaLinkRequest with
    | none => exact ⟨pending, identityInv_regenerateProvenance hinv⟩
    | some request => exact identityInv_transaction hinv hok
  | completeBlock =>
    rw [mldsaStep] at hstep
    split at hstep
    · cases hstep
    · rename_i keys hsave
      cases hstep
      exact ⟨[], identityInv_completeBlock hinv hsave⟩
  | revertDataUntilBlock blockId =>
    rw [mldsaStep] at hstep
    split at hstep
    · cases hstep
      exact ⟨[], identityInv_revertDataUntilBlock hinv blockId⟩
    · cases hstep

/-- The invariant holds after every history in which nobody links the other parity of a stored
key. -/
theorem identityInv_run {events : List MLDSAEvent}
    (hmeets : Meets (mldsaStep env) (parityOk env) MLDSANode.init events)
    (hrun : runFrom (mldsaStep env) MLDSANode.init events = some node) :
    ∃ pending, IdentityInv env node pending :=
  invariant_runFrom (P := fun node => ∃ pending, IdentityInv env node pending)
    (fun _ _ _ hinv hok hstep => identityInv_step hinv hok hstep) events MLDSANode.init node
    ⟨[], identityInv_init⟩ hmeets hrun

/-- **One identity per key.** In every history in which nobody links the other parity of a stored key:
no two records, stored or pending, share a key, so the hashed keys and the tweaked keys correspond
one to one; a request that conflicts with a record, pending or stored, is refused and changes
nothing; and the side condition is exact, a request keeps the records one to one only under it. -/
theorem one_identity_per_key (env : LinkEnvironment) (events : List MLDSAEvent) (node : MLDSANode)
    (hmeets : Meets (mldsaStep env) (parityOk env) MLDSANode.init events)
    (hrun : runFrom (mldsaStep env) MLDSANode.init events = some node) :
    OneToOne node.storedKeys node.pendingKeys ∧
      (Relator.BiUnique fun hashedPublicKey tweakedPublicKey =>
        ∃ k ∈ node.storedKeys ++ node.pendingKeys,
          k.hashedPublicKey = hashedPublicKey ∧ k.tweakedPublicKey = tweakedPublicKey) ∧
      (∀ senderPubKey request, LinksOwnParity env node senderPubKey request →
        (∃ k ∈ node.storedKeys ++ node.pendingKeys,
          ¬ k.Compatible (requestedKey env senderPubKey request node.height).linkedKeys) →
        ∃ e, node.assignMLDSAToLegacy env senderPubKey (some request) = (.error e, node)) ∧
      ∀ senderPubKey request,
        OneToOne (node.assignMLDSAToLegacy env senderPubKey (some request)).2.storedKeys
            (node.assignMLDSAToLegacy env senderPubKey (some request)).2.pendingKeys
          ↔ LinksOwnParity env node senderPubKey request := by
  obtain ⟨pending, hinv⟩ := identityInv_run hmeets hrun
  refine ⟨hinv.oneToOne, hinv.oneToOne.biUnique, ?_, ?_⟩
  · intro senderPubKey request hparity hconflict
    exact assignMLDSAToLegacy_of_conflict hinv hparity hconflict
  · intro senderPubKey request
    exact oneToOne_transaction_iff hinv

/-- The other point with the victim's x coordinate: it has the same taproot output key. -/
def victimOtherParity : Bytes :=
  bigEndian 33 0x03c6047f9441ed7d6d3045406e95c07cd85c778e4b8cef3ca7abac09b95c709ee5

/-- After honest links, the other parity is refused the identity of the victim. -/
theorem one_identity_per_key_honestLinks :
    ∃ node e, runFrom (mldsaStep twoUsers) MLDSANode.init honestLinks = some node ∧
      OneToOne node.storedKeys node.pendingKeys ∧
      node.assignMLDSAToLegacy twoUsers victimOtherParity (some (linkTo (List.replicate 32 7)))
        = (.error e, node) := by
  have hmeets : Meets (mldsaStep twoUsers) (parityOk twoUsers) MLDSANode.init honestLinks := by
    decide +kernel
  have hchecks : ∃ node, runFrom (mldsaStep twoUsers) MLDSANode.init honestLinks = some node ∧
      LinksOwnParity twoUsers node victimOtherParity (linkTo (List.replicate 32 7)) ∧
      ⟨List.replicate 32 7, victimKey, victimTweaked⟩ ∈ node.storedKeys := by
    obtain ⟨node, hrun⟩ : ∃ node, runFrom (mldsaStep twoUsers) MLDSANode.init honestLinks
        = some node := Option.isSome_iff_exists.mp (by decide +kernel)
    have hall : ∀ node ∈ runFrom (mldsaStep twoUsers) MLDSANode.init honestLinks,
        LinksOwnParity twoUsers node victimOtherParity (linkTo (List.replicate 32 7)) ∧
          ⟨List.replicate 32 7, victimKey, victimTweaked⟩ ∈ node.storedKeys := by
      decide +kernel
    exact ⟨node, hrun, hall node hrun⟩
  obtain ⟨node, hrun, hparity, hstored⟩ := hchecks
  obtain ⟨hone, -, hrefused, -⟩ := one_identity_per_key twoUsers honestLinks node hmeets hrun
  have hconflict : ¬ LinkedKeys.Compatible ⟨List.replicate 32 7, victimKey, victimTweaked⟩
      (requestedKey twoUsers victimOtherParity (linkTo (List.replicate 32 7))
        node.height).linkedKeys := by
    intro hcompatible
    have hlegacy := congrArg LinkedKeys.legacyPublicKey (hcompatible (Or.inl rfl))
    have hne : victimKey ≠ victimOtherParity := by decide +kernel
    exact hne hlegacy
  obtain ⟨e, hassign⟩ := hrefused victimOtherParity (linkTo (List.replicate 32 7)) hparity
    ⟨_, List.mem_append_left _ hstored, hconflict⟩
  exact ⟨node, e, hrun, hone, hassign⟩

/-- The victim links an identity in one block, and the other parity of his key another in the
next. -/
def bothParities : List MLDSAEvent :=
  [.transaction victimKey (some (linkTo (List.replicate 32 7))), .completeBlock,
    .transaction victimOtherParity (some (linkTo (List.replicate 32 9))), .completeBlock]

/-- Both identities are stored, with one tweaked key. -/
theorem two_identities_per_key :
    ∃ node, runFrom (mldsaStep twoUsers) MLDSANode.init bothParities = some node ∧
      node.storedKeys = [⟨List.replicate 32 7, victimKey, victimTweaked⟩,
        ⟨List.replicate 32 9, victimOtherParity, victimTweaked⟩] ∧
      ¬ OneToOne node.storedKeys node.pendingKeys := by
  obtain ⟨node, hrun⟩ : ∃ node, runFrom (mldsaStep twoUsers) MLDSANode.init bothParities
      = some node := Option.isSome_iff_exists.mp (by decide +kernel)
  have hstored : ∀ node ∈ runFrom (mldsaStep twoUsers) MLDSANode.init bothParities,
      node.storedKeys = [⟨List.replicate 32 7, victimKey, victimTweaked⟩,
        ⟨List.replicate 32 9, victimOtherParity, victimTweaked⟩] := by
    decide +kernel
  have hstored := hstored node hrun
  refine ⟨node, hrun, hstored, ?_⟩
  intro hone
  have hcompatible := hone.compatible ⟨List.replicate 32 7, victimKey, victimTweaked⟩
    (by simp [hstored]) ⟨List.replicate 32 9, victimOtherParity, victimTweaked⟩ (by simp [hstored])
  have heq := congrArg LinkedKeys.hashedPublicKey (hcompatible (Or.inr (Or.inr rfl)))
  have hne : List.replicate 32 (7 : UInt8) ≠ List.replicate 32 9 := by decide
  exact hne heq

end OpnetNode
