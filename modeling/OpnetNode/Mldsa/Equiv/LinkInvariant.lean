import OpnetNode.Mldsa.Equiv.LinkRequest

/-!
# The records of one tweaked key

`LinkInv env t` says of a node that the records of the tweaked key `t`, pending and stored, agree
with the first link of `t`, and that no record has the bytes of `t` in another role.

* `lookup_eq_firstLink`: under it, `t` resolves to its first link.
* `linkInv_regenerateProvenance`, `linkInv_setPending`, `linkInv_completeBlock` and
  `linkInv_revertDataUntilBlock`: every event keeps it, a recorded request if it `LinksHonestly`.
-/

namespace OpnetNode

open MLDSAPublicKeyRepository

/-! ### The records of a tweaked key -/

section Records

variable (env : LinkEnvironment) (t : Bytes)

/-- The first recorded link of the tweaked key `t`. -/
def firstLink (links : List MLDSAPublicKey) : Option MLDSAPublicKey :=
  links.find? fun link => link.tweakedPublicKey = t

/-- What is kept of every record, pending or stored: it does not have `t` in another role than its
tweaked key, and if that is `t` it is the first link's. -/
structure RecordOk (links : List MLDSAPublicKey)
    (identity : Bytes × Bytes × Bytes × MLDSASecurityLevel) : Prop where
  legacy_length : identity.2.1.length = 33
  tweaked_eq : identity.2.2.1 = env.tweakedPublicKey identity.2.1
  hashed : identity.1 = t → identity.2.2.1 = t
  same : identity.2.2.1 = t → ∃ link, firstLink t links = some link ∧ identity = link.identity

/-- The stored documents: records of completed blocks, and the record of `t` from the block of its
first link. -/
structure KeysOk (links : List MLDSAPublicKey) (height : ℕ) (keys : Keys) : Prop where
  record : ∀ d ∈ keys, RecordOk env t links d.identity
  inserted_lt : ∀ d ∈ keys, d.insertedBlockHeight < height
  inserted_eq : ∀ d ∈ keys, d.tweakedPublicKey = t →
    ∃ link, firstLink t links = some link ∧ link.insertedBlockHeight = some d.insertedBlockHeight

/-- The invariant of a history, for one tweaked key `t`. -/
structure LinkInv (node : MLDSANode) (pending : List MLDSAUpdateData) : Prop where
  maps : PendingMaps env node pending
  keysOk : KeysOk env t node.links node.height node.keys
  pendingRecord : ∀ e ∈ pending, RecordOk env t node.links e.data.identity
  pendingInserted : ∀ e ∈ pending, e.data.insertedBlockHeight = some node.height
  cached : ∀ cached, node.mldsaCacheFromLegacy.get t = some cached →
    cached = getByHashedOrLegacy t node.height node.keys
  linkHeight : ∀ link ∈ node.links, ∃ h ≤ node.height, link.insertedBlockHeight = some h
  sorted : node.links.Pairwise fun link link' => ∀ h h', link.insertedBlockHeight = some h →
    link'.insertedBlockHeight = some h' → h ≤ h'
  firstStored : ∀ link h, firstLink t node.links = some link → link.insertedBlockHeight = some h →
    h < node.height → ∃ d ∈ node.keys, d.tweakedPublicKey = t
  firstPending : ∀ link, firstLink t node.links = some link →
    link.insertedBlockHeight = some node.height → ∃ e ∈ pending, e.data.tweakedPublicKey = t

variable {env t}

theorem linkInv_init : LinkInv env t MLDSANode.init [] := by
  refine ⟨⟨rfl, rfl, rfl, ?_⟩, ⟨?_, ?_, ?_⟩, ?_, ?_, ?_, ?_, List.Pairwise.nil, ?_, ?_⟩ <;>
    intros <;> contradiction

/-! ### Looking a key up -/

variable {links : List MLDSAPublicKey} {height : ℕ} {keys : Keys}

/-- Under the invariant the query's three roles come down to the tweaked key. -/
theorem getByHashedOrLegacy_cases (ht : t.length = 32) (h : KeysOk env t links height keys) :
    (getByHashedOrLegacy t height keys = none ∧ ∀ d ∈ keys, d.tweakedPublicKey ≠ t) ∨
      ∃ d ∈ keys, d.tweakedPublicKey = t ∧
        getByHashedOrLegacy t height keys = some (parseResult d) := by
  unfold getByHashedOrLegacy
  cases hfind : keys.find? fun d => decide (d.insertedBlockHeight ≤ height)
    && (d.hashedPublicKey == t || d.legacyPublicKey == t || d.tweakedPublicKey == t) with
  | none =>
    refine Or.inl ⟨rfl, ?_⟩
    intro d hd htw
    have hle : d.insertedBlockHeight ≤ height := (h.inserted_lt d hd).le
    have hnot := List.find?_eq_none.mp hfind d hd
    simp [hle, htw] at hnot
  | some d =>
    have hd := List.mem_of_find?_eq_some hfind
    refine Or.inr ⟨d, hd, ?_, rfl⟩
    have hmatch := List.find?_some hfind
    simp only [Bool.and_eq_true, Bool.or_eq_true, beq_iff_eq] at hmatch
    rcases hmatch.2 with (hhashed | hlegacy) | htweaked
    · exact (h.record d hd).hashed hhashed
    · -- a legacy key is longer than a tweaked key
      have hlen : d.legacyPublicKey.length = 33 := (h.record d hd).legacy_length
      rw [hlegacy] at hlen
      omega
    · exact htweaked

variable {node : MLDSANode} {pending : List MLDSAUpdateData}

theorem pending_lookup (hinv : LinkInv env t node pending) :
    (node.mldsaToStoreLegacy.get t = none ∧ ∀ e ∈ pending, e.data.tweakedPublicKey ≠ t) ∨
      ∃ e ∈ pending, e.data.tweakedPublicKey = t ∧
        node.mldsaToStoreLegacy.get t = some e.data.hashedPublicKey ∧
        node.mldsaToStore.get e.data.hashedPublicKey = some e := by
  have htweaked : ∀ e ∈ pending,
      env.tweakedPublicKey e.data.legacyPublicKey = e.data.tweakedPublicKey :=
    fun e he => (hinv.pendingRecord e he).tweaked_eq.symm
  rw [hinv.maps.toStoreLegacy, hinv.maps.toStore, AddressMap.get_map]
  cases hfind : pending.find? fun e => env.tweakedPublicKey e.data.legacyPublicKey = t with
  | none =>
    refine Or.inl ⟨rfl, ?_⟩
    intro e he htw
    have hnot := List.find?_eq_none.mp hfind e he
    rw [htweaked e he] at hnot
    simp [htw] at hnot
  | some e =>
    have he := List.mem_of_find?_eq_some hfind
    have htw : env.tweakedPublicKey e.data.legacyPublicKey = t := by
      simpa using List.find?_some hfind
    refine Or.inr ⟨e, he, by rw [← htweaked e he, htw], rfl, ?_⟩
    rw [AddressMap.get_map]
    cases hfind' : pending.find? fun e' => e'.data.hashedPublicKey = e.data.hashedPublicKey with
    | none =>
      have hnot := List.find?_eq_none.mp hfind' e he
      simp at hnot
    | some e' =>
      have hhashed : e'.data.hashedPublicKey = e.data.hashedPublicKey := by
        simpa using List.find?_some hfind'
      rw [hinv.maps.hashed_inj e' (List.mem_of_find?_eq_some hfind') e he hhashed]
      rfl

theorem lookup_eq_firstLink (ht : t.length = 32) (hinv : LinkInv env t node pending) :
    (node.getMLDSAPublicKeyFromLegacyKey t).1.map MLDSAPublicKey.identity
      = (firstLink t node.links).map MLDSAPublicKey.identity := by
  unfold MLDSANode.getMLDSAPublicKeyFromLegacyKey
  rcases pending_lookup hinv with ⟨hnone, hno⟩ | ⟨e, he, htw, hget, hgetE⟩
  · -- not pending: the answer is the collection's, asked now or cached
    have hstored : (getByHashedOrLegacy t node.height node.keys).map MLDSAPublicKey.identity
        = (firstLink t node.links).map MLDSAPublicKey.identity := by
      rcases getByHashedOrLegacy_cases ht hinv.keysOk with ⟨hdb, hnoDoc⟩ | ⟨d, hd, htw, hdb⟩
      · rw [hdb]
        cases hlink : firstLink t node.links with
        | none => rfl
        | some link =>
          obtain ⟨h, hle, hh⟩ := hinv.linkHeight link (List.mem_of_find?_eq_some hlink)
          rcases Nat.eq_or_lt_of_le hle with rfl | hlt
          · obtain ⟨e, he, htw⟩ := hinv.firstPending link hlink hh
            exact absurd htw (hno e he)
          · obtain ⟨d, hd, htw⟩ := hinv.firstStored link h hlink hh hlt
            exact absurd htw (hnoDoc d hd)
      · obtain ⟨link, hlink, hid⟩ := (hinv.keysOk.record d hd).same htw
        rw [hdb, hlink, Option.map_some, Option.map_some, ← hid]
        rfl
    rw [hnone]
    dsimp only
    cases hcache : node.mldsaCacheFromLegacy.get t with
    | none => exact hstored
    | some cached =>
      dsimp only
      rw [hinv.cached cached hcache]
      exact hstored
  · obtain ⟨link, hlink, hid⟩ := (hinv.pendingRecord e he).same htw
    rw [hget]
    dsimp only
    rw [hgetE, hlink, Option.map_some, Option.map_some, Option.map_some, ← hid]

/-! ### Transactions -/

theorem linkInv_regenerateProvenance (hinv : LinkInv env t node pending) (senderPubKey : Bytes) :
    LinkInv env t (node.regenerateProvenance env senderPubKey).2 pending := by
  rw [regenerateProvenance_snd]
  unfold MLDSANode.getMLDSAPublicKeyFromLegacyKey
  split
  · exact hinv
  · split
    · exact hinv
    · -- only the cache changes
      refine { hinv with cached := ?_, maps := ?_ }
      · obtain ⟨h1, h2, h3, h4⟩ := hinv.maps
        exact ⟨h1, h2, h3, h4⟩
      · intro cached hcached
        rw [AddressMap.get_set] at hcached
        split at hcached
        · rename_i heq
          rw [← Option.some.inj hcached, heq]
        · exact hinv.cached cached hcached

variable {link : MLDSAPublicKey}

theorem firstLink_append_of_some (h : firstLink t links = some link) (key : MLDSAPublicKey) :
    firstLink t (links ++ [key]) = some link := by
  unfold firstLink at h ⊢
  rw [List.find?_append, h, Option.some_or]

theorem firstLink_append_of_none (h : firstLink t links = none) (key : MLDSAPublicKey) :
    firstLink t (links ++ [key]) = if key.tweakedPublicKey = t then some key else none := by
  unfold firstLink at h ⊢
  rw [List.find?_append, h, Option.none_or, List.find?_singleton]
  simp

variable {key : MLDSAPublicKey}

theorem firstLink_append_cases (h : firstLink t (links ++ [key]) = some link) :
    firstLink t links = some link ∨ (link = key ∧ key.tweakedPublicKey = t) := by
  cases hfirst : firstLink t links with
  | some first =>
    rw [firstLink_append_of_some hfirst key] at h
    exact .inl h
  | none =>
    rw [firstLink_append_of_none hfirst] at h
    split at h
    · rename_i htw
      exact .inr ⟨(Option.some.inj h).symm, htw⟩
    · cases h

theorem RecordOk.append
    {identity : Bytes × Bytes × Bytes × MLDSASecurityLevel} (h : RecordOk env t links identity)
    (key : MLDSAPublicKey) : RecordOk env t (links ++ [key]) identity := by
  refine { h with same := ?_ }
  intro htw
  obtain ⟨link, hlink, hid⟩ := h.same htw
  exact ⟨link, firstLink_append_of_some hlink key, hid⟩

theorem KeysOk.append (h : KeysOk env t links height keys) (key : MLDSAPublicKey) :
    KeysOk env t (links ++ [key]) height keys := by
  refine ⟨fun d hd => (h.record d hd).append key, h.inserted_lt, ?_⟩
  intro d hd htw
  obtain ⟨link, hlink, hins⟩ := h.inserted_eq d hd htw
  exact ⟨link, firstLink_append_of_some hlink key, hins⟩

/-- What is asked of a recorded request: its hashed key is `t` only if its tweaked key is, and if its
tweaked key is `t` then no document has `t` from another legacy key. -/
def LinksHonestly (env : LinkEnvironment) (t : Bytes) (node : MLDSANode) (senderPubKey : Bytes)
    (request : MLDSARequestData) : Prop :=
  (request.hashedPublicKey = t → env.tweakedPublicKey senderPubKey = t) ∧
    (env.tweakedPublicKey senderPubKey = t →
      ∀ d ∈ node.keys, d.tweakedPublicKey = t → d.legacyPublicKey = senderPubKey)

variable {senderPubKey : Bytes} {request : MLDSARequestData}

/-- A request recorded for `t` after `t` was linked repeats that link. -/
theorem identity_of_recorded
    (hinv : LinkInv env t node pending) (hrec : Recorded env node senderPubKey request key)
    (hhonest : LinksHonestly env t node senderPubKey request) (htw : key.tweakedPublicKey = t)
    (hlink : firstLink t node.links = some link) : key.identity = link.identity := by
  obtain ⟨isExpose, hinsert⟩ := hrec.inserted
  obtain ⟨-, hkeys⟩ := shouldInsertMLDSAKey_eq_ok hinsert
  have htwSender : env.tweakedPublicKey senderPubKey = t := hrec.tweaked_eq ▸ htw
  -- the first link is not pending, else the request would have been refused
  have hlegacyNone : node.mldsaToStoreLegacy.get t = none := by
    have h := (validateMLDSALinkRequest_eq_true hrec.validated).2
    rwa [hrec.legacy_eq, htwSender] at h
  have hnoPending : ∀ e ∈ pending, e.data.tweakedPublicKey ≠ t := by
    rcases pending_lookup hinv with ⟨-, hno⟩ | ⟨e, -, -, hsome, -⟩
    · exact hno
    · cases hlegacyNone.symm.trans hsome
  obtain ⟨h, hle, hh⟩ := hinv.linkHeight link (List.mem_of_find?_eq_some hlink)
  obtain ⟨d, hd, hdtw⟩ : ∃ d ∈ node.keys, d.tweakedPublicKey = t := by
    rcases Nat.eq_or_lt_of_le hle with rfl | hlt
    · obtain ⟨e, he, hetw⟩ := hinv.firstPending link hlink hh
      exact absurd hetw (hnoPending e he)
    · exact hinv.firstStored link h hlink hh hlt
  -- so it is stored, under the same legacy key, and the checks passed on one document
  have hlegacy : d.legacyPublicKey = senderPubKey := hhonest.2 htwSender d hd hdtw
  rcases hkeys with ⟨-, hno⟩ | ⟨d', hd', hhashed, hlegacy', hlevel⟩
  · exact absurd (hlegacy.trans hrec.legacy_eq.symm) (hno d hd).2
  · have hd'tw : d'.tweakedPublicKey = t := by
      have h := (hinv.keysOk.record d' hd').tweaked_eq
      change d'.tweakedPublicKey = env.tweakedPublicKey d'.legacyPublicKey at h
      rw [h, hlegacy', hrec.legacy_eq, htwSender]
    obtain ⟨link', hlink', hid⟩ := (hinv.keysOk.record d' hd').same hd'tw
    rw [hlink] at hlink'
    cases hlink'
    rw [← hid]
    unfold MLDSAPublicKeyDocument.identity MLDSAPublicKey.identity parseResult
    rw [hhashed, hlegacy', hlevel, hd'tw, htw]

/-- The record of a request: a link that repeats the first one, or is the first one. -/
theorem recordOk_of_recorded
    (hinv : LinkInv env t node pending) (hrec : Recorded env node senderPubKey request key)
    (hhonest : LinksHonestly env t node senderPubKey request) :
    RecordOk env t (node.links ++ [key]) key.identity := by
  obtain ⟨isExpose, hinsert⟩ := hrec.inserted
  refine ⟨(shouldInsertMLDSAKey_eq_ok hinsert).1, ?_, ?_, ?_⟩
  · show key.tweakedPublicKey = env.tweakedPublicKey key.legacyPublicKey
    rw [hrec.tweaked_eq, hrec.legacy_eq]
  · intro hhashed
    show key.tweakedPublicKey = t
    rw [hrec.tweaked_eq]
    exact hhonest.1 (hrec.hashed_eq ▸ hhashed)
  · intro htw
    change key.tweakedPublicKey = t at htw
    cases hlink : firstLink t node.links with
    | none => exact ⟨key, by rw [firstLink_append_of_none hlink, if_pos htw], rfl⟩
    | some link =>
      exact ⟨link, firstLink_append_of_some hlink key,
        identity_of_recorded hinv hrec hhonest htw hlink⟩

theorem sorted_append
    (hinv : LinkInv env t node pending) (hkey : key.insertedBlockHeight = some node.height) :
    (node.links ++ [key]).Pairwise fun link link' => ∀ h h', link.insertedBlockHeight = some h →
      link'.insertedBlockHeight = some h' → h ≤ h' := by
  rw [List.pairwise_append]
  refine ⟨hinv.sorted, List.pairwise_singleton _ _, ?_⟩
  intro link hlink key' hkey' h h' hh hh'
  obtain ⟨h₀, hle, hh₀⟩ := hinv.linkHeight link hlink
  rw [List.mem_singleton.mp hkey', hkey] at hh'
  rw [hh₀] at hh
  cases hh
  cases hh'
  exact hle

theorem linkInv_setPending {exposePublicKey : Bool}
    (hinv : LinkInv env t node pending) (hrec : Recorded env node senderPubKey request key)
    (hhonest : LinksHonestly env t node senderPubKey request) :
    LinkInv env t (node.setPending env exposePublicKey key)
      (pending ++ [⟨exposePublicKey, key⟩]) := by
  refine
    { maps := hinv.maps.setPending hrec.validated
      keysOk := hinv.keysOk.append key
      pendingRecord := ?_
      pendingInserted := ?_
      cached := hinv.cached
      linkHeight := ?_
      sorted := sorted_append hinv hrec.inserted_eq
      firstStored := ?_
      firstPending := ?_ }
  · intro e he
    rcases List.mem_append.mp he with he | he
    · exact (hinv.pendingRecord e he).append key
    · rw [List.mem_singleton.mp he]
      exact recordOk_of_recorded hinv hrec hhonest
  · intro e he
    rcases List.mem_append.mp he with he | he
    · exact hinv.pendingInserted e he
    · rw [List.mem_singleton.mp he]
      exact hrec.inserted_eq
  · intro link hlink
    rcases List.mem_append.mp hlink with hlink | hlink
    · exact hinv.linkHeight link hlink
    · rw [List.mem_singleton.mp hlink]
      exact ⟨node.height, le_refl _, hrec.inserted_eq⟩
  · intro link h hlink hh hlt
    rcases firstLink_append_cases hlink with hold | ⟨rfl, -⟩
    · exact hinv.firstStored link h hold hh hlt
    · -- a link of the current block is not below it
      rw [hrec.inserted_eq] at hh
      cases hh
      exact absurd hlt (lt_irrefl _)
  · intro link hlink hh
    rcases firstLink_append_cases hlink with hold | ⟨rfl, htw⟩
    · obtain ⟨e, he, htw⟩ := hinv.firstPending link hold hh
      exact ⟨e, List.mem_append_left _ he, htw⟩
    · exact ⟨_, List.mem_append_right _ (List.mem_singleton_self _), htw⟩

/-! ### Completing a block -/

/-- What saving the pending requests one by one keeps, in the block at `height`. -/
structure SavingOk (env : LinkEnvironment) (t : Bytes) (links : List MLDSAPublicKey) (height : ℕ)
    (keys : Keys) : Prop where
  keysOk : KeysOk env t links (height + 1) keys
  stored : ∀ link h, firstLink t links = some link → link.insertedBlockHeight = some h →
    h < height → ∃ d ∈ keys, d.tweakedPublicKey = t

theorem savingOk_saveStep {keys' : Keys} (hheight : ∀ link, firstLink t links = some link →
      ∃ h ≤ height, link.insertedBlockHeight = some h)
    (h : SavingOk env t links height keys) (hrecord : RecordOk env t links key.identity)
    (hins : key.insertedBlockHeight = some height) (hstep : SaveStep key keys keys') :
    SavingOk env t links height keys' := by
  have hnew : ∀ d' : MLDSAPublicKeyDocument, d'.identity = key.identity →
      key.insertedBlockHeight = some d'.insertedBlockHeight →
      (∀ d ∈ keys, d.hashedPublicKey ≠ key.hashedPublicKey) → d'.tweakedPublicKey = t →
      ∃ link, firstLink t links = some link ∧
        link.insertedBlockHeight = some d'.insertedBlockHeight := by
    intro d' hid hins' hfresh htw
    obtain ⟨link, hlink, hidLink⟩ := hrecord.same (by rw [← hid]; exact htw)
    obtain ⟨h₀, hle, hh₀⟩ := hheight link hlink
    rcases Nat.eq_or_lt_of_le hle with rfl | hlt
    · exact ⟨link, hlink, by rw [hh₀, ← hins', hins]⟩
    · -- an earlier link of `t` would have the same hashed key
      obtain ⟨d, hd, hdtw⟩ := h.stored link h₀ hlink hh₀ hlt
      obtain ⟨link', hlink', hidd⟩ := (h.keysOk.record d hd).same hdtw
      rw [hlink] at hlink'
      cases hlink'
      exact absurd (hashedPublicKey_of_identity (hidd.trans hidLink.symm)) (hfresh d hd)
  refine ⟨⟨?_, ?_, ?_⟩, ?_⟩
  · intro d' hd'
    rcases hstep.old_or_new d' hd' with ⟨d, hd, hid, -⟩ | ⟨hid, -, -⟩
    · rw [hid]
      exact h.keysOk.record d hd
    · rw [hid]
      exact hrecord
  · intro d' hd'
    rcases hstep.old_or_new d' hd' with ⟨d, hd, -, hheq⟩ | ⟨-, hins', -⟩
    · rw [hheq]
      exact h.keysOk.inserted_lt d hd
    · rw [hins] at hins'
      cases hins'
      omega
  · intro d' hd' htw
    rcases hstep.old_or_new d' hd' with ⟨d, hd, hid, hheq⟩ | ⟨hid, hins', hfresh⟩
    · rw [hheq]
      exact h.keysOk.inserted_eq d hd (by rw [← tweakedPublicKey_of_identity hid]; exact htw)
    · exact hnew d' hid hins' hfresh htw
  · intro link h₀ hlink hh₀ hlt
    obtain ⟨d, hd, hdtw⟩ := h.stored link h₀ hlink hh₀ hlt
    obtain ⟨d', hd', hid⟩ := hstep.kept d hd
    exact ⟨d', hd', by rw [tweakedPublicKey_of_identity hid, hdtw]⟩

theorem savingOk_savePublicKeys {keys' : Keys} {updates : List MLDSAUpdateData}
    (hheight : ∀ link, firstLink t links = some link →
      ∃ h ≤ height, link.insertedBlockHeight = some h)
    (h : SavingOk env t links height keys)
    (hrecord : ∀ e ∈ updates, RecordOk env t links e.data.identity)
    (hins : ∀ e ∈ updates, e.data.insertedBlockHeight = some height)
    (hsave : savePublicKeys updates keys = .ok keys') :
    SavingOk env t links height keys' ∧
      ((∃ d ∈ keys, d.tweakedPublicKey = t) ∨ (∃ e ∈ updates, e.data.tweakedPublicKey = t) →
        ∃ d ∈ keys', d.tweakedPublicKey = t) := by
  unfold savePublicKeys at hsave
  induction updates generalizing keys with
  | nil =>
    cases hsave
    refine ⟨h, ?_⟩
    rintro (hd | ⟨e, he, -⟩)
    · exact hd
    · cases he
  | cons e updates ih =>
    rw [List.foldlM_cons] at hsave
    obtain ⟨keys₁, hsave₁, hsave⟩ := exceptBind_eq_ok hsave
    have hstep := saveStep_savePublicKey hsave₁
    have h₁ := savingOk_saveStep hheight h (hrecord e List.mem_cons_self)
      (hins e List.mem_cons_self) hstep
    obtain ⟨h', hex⟩ := ih h₁ (fun e' he' => hrecord e' (List.mem_cons_of_mem e he'))
      (fun e' he' => hins e' (List.mem_cons_of_mem e he')) hsave
    refine ⟨h', ?_⟩
    rintro (⟨d, hd, htw⟩ | ⟨e', he', htw⟩)
    · obtain ⟨d', hd', hid⟩ := hstep.kept d hd
      exact hex (Or.inl ⟨d', hd', by rw [tweakedPublicKey_of_identity hid, htw]⟩)
    · rcases List.mem_cons.mp he' with rfl | he'
      · obtain ⟨d', hd', htw'⟩ := hstep.saved
        exact hex (Or.inl ⟨d', hd', by rw [htw', htw]⟩)
      · exact hex (Or.inr ⟨e', he', htw⟩)

theorem linkInv_completeBlock (hinv : LinkInv env t node pending)
    (hsave : savePublicKeys (node.mldsaToStore.map Prod.snd) node.keys = .ok keys) :
    LinkInv env t { node.clear with keys := keys, height := node.height + 1 } [] := by
  rw [hinv.maps.map_snd] at hsave
  have hheight : ∀ link, firstLink t node.links = some link →
      ∃ h ≤ node.height, link.insertedBlockHeight = some h :=
    fun link hlink => hinv.linkHeight link (List.mem_of_find?_eq_some hlink)
  have hstart : SavingOk env t node.links node.height node.keys := by
    refine ⟨{ hinv.keysOk with inserted_lt := ?_ }, hinv.firstStored⟩
    intro d hd
    have := hinv.keysOk.inserted_lt d hd
    omega
  obtain ⟨hsaved, hex⟩ := savingOk_savePublicKeys hheight hstart hinv.pendingRecord
    hinv.pendingInserted hsave
  refine
    { maps := ⟨rfl, rfl, rfl, fun e he => by cases he⟩
      keysOk := hsaved.keysOk
      pendingRecord := fun e he => by cases he
      pendingInserted := fun e he => by cases he
      cached := fun cached hcached => by cases hcached
      linkHeight := ?_
      sorted := hinv.sorted
      firstStored := ?_
      firstPending := ?_ }
  · intro link hlink
    obtain ⟨h, hle, hh⟩ := hinv.linkHeight link hlink
    exact ⟨h, Nat.le_succ_of_le hle, hh⟩
  · -- a first link of this block was pending, and is saved with it
    intro link h hlink hh hlt
    rcases Nat.eq_or_lt_of_le (Nat.lt_succ_iff.mp hlt) with rfl | hlt'
    · exact hex (Or.inr (hinv.firstPending link hlink hh))
    · exact hex (Or.inl (hinv.firstStored link h hlink hh hlt'))
  · intro link hlink hh
    obtain ⟨h, hle, hh'⟩ := hheight link hlink
    rw [hh'] at hh
    have : h = node.height + 1 := Option.some.inj hh
    omega

/-! ### Reverting -/

variable {blockId : ℕ}

/-- A revert keeps the first link, or removes every link of `t`. -/
theorem firstLink_filter (hheight : ∀ link ∈ links, ∃ h, link.insertedBlockHeight = some h)
    (hsorted : links.Pairwise fun link link' => ∀ h h', link.insertedBlockHeight = some h →
      link'.insertedBlockHeight = some h' → h ≤ h') :
    firstLink t (links.filter fun link => link.insertedBlockHeight.any (· < blockId))
      = (firstLink t links).filter fun link => link.insertedBlockHeight.any (· < blockId) := by
  unfold firstLink
  apply Collection.find?_filter_of_pairwise
  apply hsorted.imp_of_mem
  intro link link' hlink hlink' hle _ _ hlt
  obtain ⟨h, hh⟩ := hheight link hlink
  obtain ⟨h', hh'⟩ := hheight link' hlink'
  have hle := hle h h' hh hh'
  have hlt : h' < blockId := by simpa [hh'] using hlt
  have : h < blockId := by omega
  simpa [hh] using this

theorem firstLink_filter_eq_some_iff (hinv : LinkInv env t node pending) :
    firstLink t (node.links.filter fun link => link.insertedBlockHeight.any (· < blockId))
        = some link
      ↔ firstLink t node.links = some link ∧ link.insertedBlockHeight.any (· < blockId) := by
  have hheight : ∀ link ∈ node.links, ∃ h, link.insertedBlockHeight = some h :=
    fun link hlink => (hinv.linkHeight link hlink).imp fun h hh => hh.2
  rw [firstLink_filter hheight hinv.sorted, Option.filter_eq_some_iff]

/-- The document of `t` is as old as the first link, so the revert drops both or none. -/
theorem keysOk_deleteFromBlockHeight (hinv : LinkInv env t node pending) (blockId : ℕ) :
    KeysOk env t (node.links.filter fun link => link.insertedBlockHeight.any (· < blockId)) blockId
      (deleteFromBlockHeight blockId node.keys) := by
  have hkeep : ∀ d ∈ node.keys, d.tweakedPublicKey = t → d.insertedBlockHeight < blockId →
      ∃ link, firstLink t node.links = some link
        ∧ firstLink t (node.links.filter fun link => link.insertedBlockHeight.any (· < blockId))
          = some link
        ∧ link.insertedBlockHeight = some d.insertedBlockHeight := by
    intro d hd htw hlt
    obtain ⟨link, hlink, hins⟩ := hinv.keysOk.inserted_eq d hd htw
    exact ⟨link, hlink, (firstLink_filter_eq_some_iff hinv).mpr ⟨hlink, by simp [hins, hlt]⟩, hins⟩
  refine ⟨?_, ?_, ?_⟩
  · intro d' hd'
    obtain ⟨d, hd, hid, -, hlt⟩ := mem_deleteFromBlockHeight hd'
    rw [hid]
    refine { hinv.keysOk.record d hd with same := ?_ }
    intro htw
    obtain ⟨link, hlink, hidLink⟩ := (hinv.keysOk.record d hd).same htw
    obtain ⟨link', hlink', hfiltered, -⟩ := hkeep d hd htw hlt
    cases hlink.symm.trans hlink'
    exact ⟨link, hfiltered, hidLink⟩
  · intro d' hd'
    obtain ⟨d, -, -, hheq, hlt⟩ := mem_deleteFromBlockHeight hd'
    rw [hheq]
    exact hlt
  · intro d' hd' htw
    obtain ⟨d, hd, hid, hheq, hlt⟩ := mem_deleteFromBlockHeight hd'
    rw [tweakedPublicKey_of_identity hid] at htw
    obtain ⟨link, -, hfiltered, hins⟩ := hkeep d hd htw hlt
    exact ⟨link, hfiltered, by rw [hins, hheq]⟩

theorem linkInv_revertDataUntilBlock
    (hinv : LinkInv env t node pending) (hle : blockId ≤ node.height) :
    LinkInv env t
      { node.clear with
        keys := deleteFromBlockHeight blockId node.keys
        height := blockId
        links := node.links.filter fun link => link.insertedBlockHeight.any (· < blockId) } [] := by
  refine
    { maps := ⟨rfl, rfl, rfl, fun e he => by cases he⟩
      keysOk := keysOk_deleteFromBlockHeight hinv blockId
      pendingRecord := fun e he => by cases he
      pendingInserted := fun e he => by cases he
      cached := fun cached hcached => by cases hcached
      linkHeight := ?_
      sorted := hinv.sorted.filter _
      firstStored := ?_
      firstPending := ?_ }
  · intro link hlink
    obtain ⟨hmem, hlt⟩ := List.mem_filter.mp hlink
    obtain ⟨h, -, hh⟩ := hinv.linkHeight link hmem
    have hlt : h < blockId := by simpa [hh] using hlt
    exact ⟨h, hlt.le, hh⟩
  · intro link h hlink hh hlt
    obtain ⟨hlink₀, -⟩ := (firstLink_filter_eq_some_iff hinv).mp hlink
    obtain ⟨d, hd, htw⟩ := hinv.firstStored link h hlink₀ hh (lt_of_lt_of_le hlt hle)
    obtain ⟨link', hlink', hins⟩ := hinv.keysOk.inserted_eq d hd htw
    cases hlink₀.symm.trans hlink'
    rw [hh] at hins
    obtain ⟨d', hd', hid⟩ := exists_mem_deleteFromBlockHeight hd
      (Option.some.inj hins ▸ hlt : d.insertedBlockHeight < blockId)
    exact ⟨d', hd', by rw [tweakedPublicKey_of_identity hid, htw]⟩
  · -- no link of the block the revert goes back to is left
    intro link hlink hh
    have hlt := ((firstLink_filter_eq_some_iff hinv).mp hlink).2
    have hh : link.insertedBlockHeight = some blockId := hh
    simp [hh] at hlt

end Records

end OpnetNode
