import OpnetNode.Mldsa.Equiv.KeyInvariant
import OpnetNode.Mldsa.Equiv.SenderResolution

/-!
# Exposed keys

Across blocks an expose request adds the key to the stored record; within a block the first request
for a key is the one that is saved, so that an expose request after a link of the same block is
dropped without an error.

* `RequestedNode`: a node with the requests it accepted. `visibleKey`: what the collection shows.
* `ExposesVisibly`: an expose request does not meet a link of its own block.
* `exposureInv_step`: under it every event keeps the invariant of every key.
-/

namespace OpnetNode

open MLDSAPublicKeyRepository MLDSANode

/-! ### Accepted requests -/

/-- A node, and the requests it accepted in the blocks that still stand. The latter are not in the
program. -/
structure RequestedNode where
  node : MLDSANode
  accepted : List AcceptedRequest

namespace RequestedNode

def init : RequestedNode := ⟨MLDSANode.init, []⟩

def requestsFor (hashedPublicKey : Bytes) (s : RequestedNode) : List AcceptedRequest :=
  s.accepted.filter fun request => request.hashedPublicKey = hashedPublicKey

/-- The blocks of all accepted requests are completed. -/
def BlocksEnded (s : RequestedNode) : Prop :=
  ∀ request ∈ s.accepted, request.blockHeight < s.node.height

def acceptedAfter (env : LinkEnvironment) (s : RequestedNode) : MLDSAEvent → List AcceptedRequest
  | .transaction senderPubKey (some request) =>
    match s.node.linkSender env senderPubKey request with
    | .error _ => s.accepted
    | .ok _ =>
      s.accepted ++
        [⟨request.hashedPublicKey, senderPubKey,
          if request.verifyRequest then request.publicKey else none, s.node.height⟩]
  | .transaction _ none => s.accepted
  | .completeBlock => s.accepted
  | .revertDataUntilBlock blockId =>
    s.accepted.filter fun request => request.blockHeight < blockId

def step (env : LinkEnvironment) (s : RequestedNode) (event : MLDSAEvent) : Option RequestedNode :=
  (mldsaStep env s.node event).map fun node => ⟨node, s.acceptedAfter env event⟩

end RequestedNode

/-- The ML-DSA key that is visible for a hash. -/
def MLDSANode.visibleKey (hashedPublicKey : Bytes) (node : MLDSANode) : Option Bytes :=
  (getByHashedPublicKey hashedPublicKey node.height node.keys).bind MLDSAPublicKey.publicKey

/-- A well-signed expose request finds no pending request of its sender for the same key that does
not expose it, and no record of its sender that was exposed in block 0, whose height is stored as
none. -/
def ExposesVisibly (env : LinkEnvironment) (s : RequestedNode) : MLDSAEvent → Prop
  | .transaction senderPubKey (some request) =>
    wellSigned env senderPubKey request → request.verifyRequest →
      (∀ e ∈ s.node.mldsaToStore.get request.hashedPublicKey,
        e.data.legacyPublicKey = senderPubKey → e.exposePublicKey) ∧
      ∀ d ∈ s.node.keys, d.hashedPublicKey = request.hashedPublicKey →
        d.legacyPublicKey = senderPubKey → d.publicKey.isSome → d.exposedBlockHeight.isSome
  | .transaction _ none => True
  | .completeBlock => True
  | .revertDataUntilBlock _ => True

instance decidableExposesVisibly (env : LinkEnvironment) (s : RequestedNode) :
    ∀ event, Decidable (ExposesVisibly env s event)
  | .transaction _ (some _) => inferInstanceAs (Decidable (_ → _))
  | .transaction _ none => isTrue trivial
  | .completeBlock => isTrue trivial
  | .revertDataUntilBlock _ => isTrue trivial

/-! ### The whole node -/

/-- The invariant of a history. -/
structure ExposureInv (env : LinkEnvironment) (s : RequestedNode) : Prop where
  pendingNodup : (s.node.mldsaToStore.map Prod.fst).Nodup
  pendingHashed : ∀ entry ∈ s.node.mldsaToStore, entry.1 = entry.2.data.hashedPublicKey
  keysNodup : (s.node.keys.map MLDSAPublicKeyDocument.hashedPublicKey).Nodup
  genuine : ∀ request ∈ s.accepted, ∀ publicKey, request.publicKey = some publicKey →
    env.sha256 publicKey = request.hashedPublicKey
  keyInv : ∀ hashedPublicKey, KeyInv s.node.height (recordOf hashedPublicKey s.node.keys)
    (s.node.mldsaToStore.get hashedPublicKey) (s.requestsFor hashedPublicKey)

variable {env : LinkEnvironment} {s : RequestedNode}

theorem exposureInv_init : ExposureInv env RequestedNode.init := by
  refine ⟨List.nodup_nil, ?_, List.nodup_nil, ?_, fun _ => keyInv_init 0⟩
  · intro entry hentry
    cases hentry
  · intro request hrequest
    cases hrequest

theorem mem_requestsFor {hashedPublicKey : Bytes} {request : AcceptedRequest} :
    request ∈ s.requestsFor hashedPublicKey
      ↔ request ∈ s.accepted ∧ request.hashedPublicKey = hashedPublicKey := by
  unfold RequestedNode.requestsFor
  simp

theorem exists_publicKey_of_wellSigned {senderPubKey : Bytes} {request : MLDSARequestData}
    (h : wellSigned env senderPubKey request) (hverify : request.verifyRequest) :
    ∃ publicKey, request.publicKey = some publicKey ∧
      env.sha256 publicKey = request.hashedPublicKey := by
  unfold wellSigned at h
  simp only [Bool.and_eq_true, Bool.or_eq_true, Bool.not_eq_true'] at h
  rcases h.2 with hfalse | hreveals
  · cases hverify.symm.trans hfalse
  obtain ⟨publicKey, -, hpublicKey, -, hhash, -⟩ := exists_of_revealsKey hreveals
  exact ⟨publicKey, hpublicKey, hhash⟩

section Requests

variable {senderPubKey : Bytes} {request : MLDSARequestData}

def acceptedRequest (senderPubKey : Bytes) (request : MLDSARequestData) (height : ℕ) :
    AcceptedRequest :=
  ⟨request.hashedPublicKey, senderPubKey,
    if request.verifyRequest then request.publicKey else none, height⟩

theorem publicKey_isSome_iff (hsigned : wellSigned env senderPubKey request) (height : ℕ) :
    (acceptedRequest senderPubKey request height).publicKey.isSome = request.verifyRequest := by
  unfold acceptedRequest
  cases hverify : request.verifyRequest with
  | false => rfl
  | true =>
    obtain ⟨publicKey, hpublicKey, -⟩ := exists_publicKey_of_wellSigned hsigned hverify
    simp [hpublicKey]

variable {node' : MLDSANode}

theorem keyInv_linkSender (hinv : ExposureInv env s)
    (hok : ExposesVisibly env s (.transaction senderPubKey (some request)))
    (h : s.node.linkSender env senderPubKey request = .ok node') :
    KeyInv s.node.height (recordOf request.hashedPublicKey node'.keys)
      (node'.mldsaToStore.get request.hashedPublicKey)
      (s.requestsFor request.hashedPublicKey
        ++ [acceptedRequest senderPubKey request s.node.height]) := by
  have hsigned := wellSigned_of_linkSender h
  have hexpose := publicKey_isSome_iff hsigned s.node.height
  have hkey := hinv.keyInv request.hashedPublicKey
  rw [linkSender_eq_recordRequest hsigned] at h
  rcases recordRequest_cases h with ⟨rfl, hpending | hstored⟩ | ⟨rfl, hvalid, hinsert⟩
  · -- a request of the same sender is pending
    obtain ⟨e, hget, hlegacy⟩ := validateMLDSALinkRequest_eq_false hpending
    apply hkey.append_dropped rfl (Or.inr ⟨e, hget, hlegacy⟩)
    intro hsome
    rw [hexpose] at hsome
    have hexposes : e.exposePublicKey := (hok hsigned hsome).1 e hget hlegacy
    obtain ⟨r, -, hfirst⟩ := hkey.pendingAs e hget
    rw [hfirst hexposes]
    rfl
  · -- the record has what is asked for
    rcases shouldInsertMLDSAKey_recordOf hstored with ⟨-, hexist⟩ | ⟨d, hd, hlegacy, hexist⟩
    · cases hexist
    · apply hkey.append_dropped rfl (Or.inl ⟨d, hd, hlegacy⟩)
      intro hsome
      rw [hexpose] at hsome
      rw [hsome] at hexist
      have hexposed : d.exposedBlockHeight.isSome := hexist.symm
      obtain ⟨r, hfirst, -⟩ := hkey.exposed d hd (hkey.exposed_key d hd hexposed)
      rw [hfirst]
      rfl
  · -- the request is recorded
    have hnone : s.node.mldsaToStore.get request.hashedPublicKey = none :=
      (validateMLDSALinkRequest_eq_true hvalid).1
    have hget : AddressMap.get request.hashedPublicKey
        (s.node.setPending env request.verifyRequest
          (requestedKey env senderPubKey request s.node.height)).mldsaToStore
        = some ⟨request.verifyRequest, requestedKey env senderPubKey request s.node.height⟩ := by
      show AddressMap.get _ (s.node.mldsaToStore.set request.hashedPublicKey _) = _
      rw [AddressMap.get_set, if_pos rfl]
    rw [hget]
    rw [hnone] at hkey
    apply hkey.append_recorded
    · exact ⟨hexpose.symm, rfl, rfl, rfl, rfl, rfl⟩
    · intro d hd
      rcases shouldInsertMLDSAKey_recordOf hinsert with ⟨hno, -⟩ | ⟨d', hd', hlegacy, hexist⟩
      · have hno : recordOf request.hashedPublicKey s.node.keys = none := hno
        rw [hno] at hd
        cases hd
      · obtain rfl := Option.some.inj (hd.symm.trans hd')
        cases hverify : request.verifyRequest with
        | false =>
          rw [hverify] at hexist
          cases hexist
        | true =>
          rw [hverify] at hexist
          obtain ⟨hmem, hhashed⟩ := mem_of_recordOf hd
          by_contra hpublicKey
          have hexposed := (hok hsigned hverify).2 d hmem hhashed hlegacy
            (Option.ne_none_iff_isSome.mp hpublicKey)
          rw [hexposed] at hexist
          cases hexist
    · intro hplain
      have hplain : request.verifyRequest = false := hplain
      rcases shouldInsertMLDSAKey_recordOf hinsert with ⟨hno, -⟩ | ⟨d, -, -, hexist⟩
      · exact hno
      · rw [hplain] at hexist
        cases hexist

theorem others_linkSender {node : MLDSANode}
    (h : node.linkSender env senderPubKey request = .ok node') :
    node'.keys = node.keys ∧ node'.height = node.height ∧
      ∀ hashedPublicKey, hashedPublicKey ≠ request.hashedPublicKey →
        node'.mldsaToStore.get hashedPublicKey = node.mldsaToStore.get hashedPublicKey := by
  rw [linkSender_eq_recordRequest (wellSigned_of_linkSender h)] at h
  rcases recordRequest_cases h with ⟨rfl, -⟩ | ⟨rfl, -, -⟩
  · exact ⟨rfl, rfl, fun _ _ => rfl⟩
  · refine ⟨rfl, rfl, ?_⟩
    intro hashedPublicKey hne
    show AddressMap.get _ (node.mldsaToStore.set request.hashedPublicKey _) = _
    rw [AddressMap.get_set, if_neg hne]

theorem pending_linkSender (hinv : ExposureInv env s)
    (h : s.node.linkSender env senderPubKey request = .ok node') :
    (node'.mldsaToStore.map Prod.fst).Nodup ∧
      ∀ entry ∈ node'.mldsaToStore, entry.1 = entry.2.data.hashedPublicKey := by
  rw [linkSender_eq_recordRequest (wellSigned_of_linkSender h)] at h
  rcases recordRequest_cases h with ⟨rfl, -⟩ | ⟨rfl, hvalid, -⟩
  · exact ⟨hinv.pendingNodup, hinv.pendingHashed⟩
  · have hnone : s.node.mldsaToStore.get request.hashedPublicKey = none :=
      (validateMLDSALinkRequest_eq_true hvalid).1
    have hset : (s.node.setPending env request.verifyRequest
          (requestedKey env senderPubKey request s.node.height)).mldsaToStore
        = s.node.mldsaToStore ++ [(request.hashedPublicKey, ⟨request.verifyRequest,
            requestedKey env senderPubKey request s.node.height⟩)] :=
      AddressMap.set_of_get_eq_none hnone
    rw [hset]
    constructor
    · rw [List.map_append, List.nodup_append_comm]
      exact List.nodup_cons.mpr ⟨AddressMap.get_eq_none_iff.mp hnone, hinv.pendingNodup⟩
    · intro entry hentry
      rcases List.mem_append.mp hentry with hentry | hentry
      · exact hinv.pendingHashed entry hentry
      · rw [List.mem_singleton.mp hentry]
        rfl

theorem exposureInv_linkSender (hinv : ExposureInv env s)
    (hok : ExposesVisibly env s (.transaction senderPubKey (some request)))
    (h : s.node.linkSender env senderPubKey request = .ok node') :
    ExposureInv env
      ⟨node', s.accepted ++ [acceptedRequest senderPubKey request s.node.height]⟩ := by
  have hsigned := wellSigned_of_linkSender h
  obtain ⟨hkeys, hheight, hothers⟩ := others_linkSender h
  obtain ⟨hnodup, hhashed⟩ := pending_linkSender hinv h
  have hkey := keyInv_linkSender hinv hok h
  refine ⟨hnodup, hhashed, ?_, ?_, ?_⟩
  · show (node'.keys.map _).Nodup
    rw [hkeys]
    exact hinv.keysNodup
  · intro r hr publicKey hpublicKey
    rcases List.mem_append.mp hr with hr | hr
    · exact hinv.genuine r hr publicKey hpublicKey
    · rw [List.mem_singleton.mp hr] at hpublicKey ⊢
      have hverify := publicKey_isSome_iff hsigned s.node.height
      rw [hpublicKey] at hverify
      obtain ⟨publicKey', hpublicKey', hhash⟩ :=
        exists_publicKey_of_wellSigned hsigned hverify.symm
      unfold acceptedRequest at hpublicKey
      rw [← hverify, hpublicKey'] at hpublicKey
      have heq : publicKey' = publicKey := Option.some.inj hpublicKey
      rw [← heq]
      exact hhash
  · intro hashedPublicKey
    show KeyInv node'.height (recordOf hashedPublicKey node'.keys) _ ((s.accepted ++ [_]).filter _)
    rw [hheight, List.filter_append, List.filter_singleton]
    by_cases heq : request.hashedPublicKey = hashedPublicKey
    · subst heq
      simpa [acceptedRequest, RequestedNode.requestsFor] using hkey
    · rw [hothers hashedPublicKey (Ne.symm heq), hkeys]
      simpa [acceptedRequest, heq, RequestedNode.requestsFor] using hinv.keyInv hashedPublicKey

theorem exposureInv_regenerateProvenance (hinv : ExposureInv env s) (senderPubKey : Bytes) :
    ExposureInv env ⟨(s.node.regenerateProvenance env senderPubKey).2, s.accepted⟩ := by
  rw [regenerateProvenance_snd]
  obtain ⟨hpendingNodup, hpendingHashed, hkeysNodup, hgenuine, hkeyInv⟩ := hinv
  unfold getMLDSAPublicKeyFromLegacyKey
  split
  · exact ⟨hpendingNodup, hpendingHashed, hkeysNodup, hgenuine, hkeyInv⟩
  · split
    · exact ⟨hpendingNodup, hpendingHashed, hkeysNodup, hgenuine, hkeyInv⟩
    · exact ⟨hpendingNodup, hpendingHashed, hkeysNodup, hgenuine, hkeyInv⟩

end Requests

/-! ### Histories -/

theorem exposureInv_completeBlock (hinv : ExposureInv env s) {keys : Keys}
    (hsave : savePublicKeys (s.node.mldsaToStore.map Prod.snd) s.node.keys = .ok keys) :
    ExposureInv env
      ⟨{ s.node.clear with keys := keys, height := s.node.height + 1 }, s.accepted⟩ := by
  obtain ⟨hnodup, hrecords⟩ :=
    recordOf_savePublicKeys hinv.keysNodup hinv.pendingNodup hinv.pendingHashed hsave
  refine ⟨List.nodup_nil, ?_, hnodup, hinv.genuine, ?_⟩
  · intro entry hentry
    cases hentry
  · intro hashedPublicKey
    obtain ⟨hkept, hsaved⟩ := hrecords hashedPublicKey
    exact (hinv.keyInv hashedPublicKey).completeBlock hkept hsaved

variable {blockId : ℕ}

theorem exposureInv_revert (hinv : ExposureInv env s) (hle : blockId ≤ s.node.height) :
    ExposureInv env
      ⟨{ s.node.clear with
          keys := deleteFromBlockHeight blockId s.node.keys
          height := blockId
          links := s.node.links.filter fun link => link.insertedBlockHeight.any (· < blockId) },
        s.accepted.filter fun request => request.blockHeight < blockId⟩ := by
  obtain ⟨hnodup, hrecords⟩ := recordOf_deleteFromBlockHeight hinv.keysNodup blockId
  refine ⟨List.nodup_nil, ?_, hnodup, ?_, ?_⟩
  · intro entry hentry
    cases hentry
  · intro request hrequest
    exact hinv.genuine request (List.mem_of_mem_filter hrequest)
  · intro hashedPublicKey
    show KeyInv blockId _ none ((s.accepted.filter fun request => request.blockHeight <
      blockId).filter _)
    rw [hrecords, List.filter_filter]
    have h := (hinv.keyInv hashedPublicKey).revert hle
    unfold RequestedNode.requestsFor at h
    rw [List.filter_filter] at h
    simpa only [Bool.and_comm] using h

variable {s' : RequestedNode}

theorem exposureInv_step {event : MLDSAEvent} (hinv : ExposureInv env s)
    (hok : ExposesVisibly env s event) (hstep : s.step env event = some s') :
    ExposureInv env s' := by
  unfold RequestedNode.step at hstep
  obtain ⟨node, hnode, rfl⟩ := Option.map_eq_some_iff.mp hstep
  cases event with
  | transaction senderPubKey mldsaLinkRequest =>
    rw [mldsaStep] at hnode
    cases hnode
    cases mldsaLinkRequest with
    | none =>
      exact exposureInv_regenerateProvenance hinv senderPubKey
    | some request =>
      cases hlink : s.node.linkSender env senderPubKey request with
      | error e =>
        -- a refused request is not accepted, and leaves the node
        have hsame : (s.node.assignMLDSAToLegacy env senderPubKey (some request)).2 = s.node := by
          unfold assignMLDSAToLegacy
          simp only [hlink]
        rw [hsame]
        unfold RequestedNode.acceptedAfter
        simp only [hlink]
        exact hinv
      | ok node' =>
        have hnode : (s.node.assignMLDSAToLegacy env senderPubKey (some request)).2 = node' := by
          unfold assignMLDSAToLegacy
          simp only [hlink]
        rw [hnode]
        unfold RequestedNode.acceptedAfter
        simp only [hlink]
        exact exposureInv_linkSender hinv hok hlink
  | completeBlock =>
    rw [mldsaStep] at hnode
    split at hnode
    · cases hnode
    · rename_i keys hsave
      cases hnode
      exact exposureInv_completeBlock hinv hsave
  | revertDataUntilBlock blockId =>
    rw [mldsaStep] at hnode
    split at hnode
    · rename_i hle
      cases hnode
      exact exposureInv_revert hinv hle
    · cases hnode

theorem exposureInv_run {events : List MLDSAEvent}
    (hmeets : Meets (RequestedNode.step env) (ExposesVisibly env) RequestedNode.init events)
    (hrun : runFrom (RequestedNode.step env) RequestedNode.init events = some s) :
    ExposureInv env s :=
  invariant_runFrom (P := ExposureInv env)
    (fun _ _ _ hinv hok hstep => exposureInv_step hinv hok hstep) events RequestedNode.init s
    exposureInv_init hmeets hrun

/-! ### What is visible -/

theorem getByHashedPublicKey_eq_recordOf (hinv : ExposureInv env s) (hashedPublicKey : Bytes) :
    getByHashedPublicKey hashedPublicKey s.node.height s.node.keys
      = (recordOf hashedPublicKey s.node.keys).map parseResult := by
  apply getByHashedPublicKey_eq
  intro d hd
  have hrecord := recordOf_of_mem hinv.keysNodup hd
  exact ((hinv.keyInv d.hashedPublicKey).inserted_lt d hrecord).le

theorem visibleKey_eq_recordOf (hinv : ExposureInv env s) (hashedPublicKey : Bytes) :
    s.node.visibleKey hashedPublicKey
      = (recordOf hashedPublicKey s.node.keys).bind MLDSAPublicKeyDocument.publicKey := by
  unfold visibleKey
  rw [getByHashedPublicKey_eq_recordOf hinv, Option.bind_map]
  rfl

theorem visibleKey_eq_firstExposure (hinv : ExposureInv env s) (hashedPublicKey : Bytes) :
    s.node.visibleKey hashedPublicKey
      = ((firstExposure (s.requestsFor hashedPublicKey)).filter fun request =>
          request.blockHeight < s.node.height).bind AcceptedRequest.publicKey := by
  have hkey := hinv.keyInv hashedPublicKey
  rw [visibleKey_eq_recordOf hinv]
  cases hexposure : (firstExposure (s.requestsFor hashedPublicKey)).filter fun request =>
      request.blockHeight < s.node.height with
  | some request =>
    obtain ⟨hfirst, hlt⟩ := Option.filter_eq_some_iff.mp hexposure
    have hlt : request.blockHeight < s.node.height := by simpa using hlt
    rcases hkey.first request hfirst with ⟨-, d, hd, hby⟩ | ⟨e, -, -, has⟩
    · rw [hd, Option.bind_some, Option.bind_some, hby.publicKey]
    · have := has.current
      omega
  | none =>
    rw [Option.bind_none]
    cases hrecord : recordOf hashedPublicKey s.node.keys with
    | none => rfl
    | some d =>
      rw [Option.bind_some]
      by_contra hpublicKey
      obtain ⟨request, hfirst, -, hlt⟩ :=
        hkey.exposed d hrecord (Option.ne_none_iff_isSome.mp hpublicKey)
      rw [hfirst] at hexposure
      simp [hlt, Option.filter] at hexposure

theorem visibleKey_of_blocksEnded (hinv : ExposureInv env s) (hended : s.BlocksEnded)
    (hashedPublicKey : Bytes) :
    s.node.visibleKey hashedPublicKey
      = (((s.requestsFor hashedPublicKey).map AcceptedRequest.asked).find? fun asked =>
          asked.2.2.isSome).bind fun asked => asked.2.2 := by
  rw [visibleKey_eq_firstExposure hinv, List.find?_map, Option.bind_map]
  show _ = (firstExposure _).bind AcceptedRequest.publicKey
  cases hfirst : firstExposure (s.requestsFor hashedPublicKey) with
  | none => rfl
  | some request =>
    have hmem := (mem_requestsFor.mp (List.mem_of_find?_eq_some hfirst)).1
    simp [Option.filter, hended request hmem]

theorem exposed_of_inv (hinv : ExposureInv env s) {request : AcceptedRequest}
    (hmem : request ∈ s.accepted) {publicKey : Bytes}
    (hpublicKey : request.publicKey = some publicKey)
    (hended : request.blockHeight < s.node.height) :
    ∃ record exposed,
      getByHashedPublicKey request.hashedPublicKey s.node.height s.node.keys = some record ∧
        record.legacyPublicKey = request.legacyPublicKey ∧ record.publicKey = some exposed ∧
        env.sha256 exposed = env.sha256 publicKey := by
  have hkey := hinv.keyInv request.hashedPublicKey
  have hin : request ∈ s.requestsFor request.hashedPublicKey := mem_requestsFor.mpr ⟨hmem, rfl⟩
  have hsome : request.publicKey.isSome := by simp [hpublicKey]
  obtain ⟨first, hfirst, hle⟩ := firstExposure_le hkey.sorted hin hsome
  obtain ⟨d, hd, hlegacy, -⟩ := hkey.stored request hin hended
  have hvisible := visibleKey_eq_firstExposure hinv request.hashedPublicKey
  rw [visibleKey_eq_recordOf hinv, hd, hfirst, Option.bind_some] at hvisible
  have hlt : first.blockHeight < s.node.height := by omega
  obtain ⟨exposed, hexposed⟩ := Option.isSome_iff_exists.mp (isSome_of_firstExposure hfirst)
  refine ⟨parseResult d, exposed, ?_, hlegacy, ?_, ?_⟩
  · rw [getByHashedPublicKey_eq_recordOf hinv, hd]
    rfl
  · show d.publicKey = some exposed
    simpa [hlt, hexposed, Option.filter] using hvisible
  · obtain ⟨hfirstMem, hhashed⟩ := mem_requestsFor.mp (List.mem_of_find?_eq_some hfirst)
    rw [hinv.genuine first hfirstMem exposed hexposed, hhashed,
      hinv.genuine request hmem publicKey hpublicKey]

theorem getByHashedPublicKey_revert (hinv : ExposureInv env s)
    (hstep : s.step env (.revertDataUntilBlock blockId) = some s')
    {hashedPublicKey : Bytes} {record : MLDSAPublicKey}
    (hrecord : getByHashedPublicKey hashedPublicKey s.node.height s.node.keys = some record)
    (hinserted : record.insertedBlockHeight.any (· < blockId)) :
    getByHashedPublicKey hashedPublicKey s'.node.height s'.node.keys
      = some (if record.exposedBlockHeight.any (blockId ≤ ·) then
          { record with publicKey := none, exposedBlockHeight := none } else record) := by
  have hok : ExposesVisibly env s (.revertDataUntilBlock blockId) := trivial
  have hinv' : ExposureInv env s' := exposureInv_step hinv hok hstep
  rw [getByHashedPublicKey_eq_recordOf hinv']
  rw [getByHashedPublicKey_eq_recordOf hinv] at hrecord
  obtain ⟨d, hd, rfl⟩ := Option.map_eq_some_iff.mp hrecord
  have hkeys : s'.node.keys = deleteFromBlockHeight blockId s.node.keys := by
    rw [RequestedNode.step, mldsaStep] at hstep
    split at hstep
    · cases hstep
      rfl
    · cases hstep
  have hlt : d.insertedBlockHeight < blockId := by simpa [parseResult] using hinserted
  have hheight : (parseResult d).exposedBlockHeight.any (blockId ≤ ·)
      = d.exposedBlockHeight.any (blockId ≤ ·) := by
    unfold parseResult
    cases d.exposedBlockHeight with
    | none => rfl
    | some height =>
      by_cases hzero : height = 0
      · simp [hzero, Option.filter]
        omega
      · simp [hzero, Option.filter]
  rw [hkeys, (recordOf_deleteFromBlockHeight hinv.keysNodup blockId).2, hd, Option.bind_some,
    hheight]
  unfold revertedRecord
  rw [if_pos hlt, Option.map_some]
  by_cases hexposed : d.exposedBlockHeight.any (blockId ≤ ·)
  · rw [if_pos hexposed, if_pos hexposed]
    rfl
  · rw [if_neg hexposed, if_neg hexposed]

theorem visibleKey_of_pendingLink (hinv : ExposureInv env s) {senderPubKey : Bytes}
    {request : MLDSARequestData} (hsigned : wellSigned env senderPubKey request)
    {e : MLDSAUpdateData} (hpending : s.node.mldsaToStore.get request.hashedPublicKey = some e)
    (hlegacy : e.data.legacyPublicKey = senderPubKey) (hlink : e.exposePublicKey = false) :
    s.node.linkSender env senderPubKey request = .ok s.node ∧
      ∀ node', mldsaStep env s.node .completeBlock = some node' →
        node'.visibleKey request.hashedPublicKey = none := by
  constructor
  · have hvalid : s.node.validateMLDSALinkRequest env
        (requestedKey env senderPubKey request s.node.height) = .ok false := by
      unfold validateMLDSALinkRequest requestedKey
      simp [hpending, hlegacy]
    rw [linkSender_eq_recordRequest hsigned]
    unfold recordRequest
    rw [hvalid]
    rfl
  · intro node' hstep
    rw [mldsaStep] at hstep
    split at hstep
    · cases hstep
    · rename_i keys hsave
      cases hstep
      have hvisible := visibleKey_eq_recordOf (exposureInv_completeBlock hinv hsave)
        request.hashedPublicKey
      obtain ⟨-, hrecords⟩ :=
        recordOf_savePublicKeys hinv.keysNodup hinv.pendingNodup hinv.pendingHashed hsave
      obtain ⟨d, hd, hsaved⟩ := (hrecords request.hashedPublicKey).2 e hpending
      obtain ⟨r, has, -⟩ := (hinv.keyInv request.hashedPublicKey).pendingAs e hpending
      rw [hvisible]
      show (recordOf request.hashedPublicKey keys).bind _ = none
      rw [hd, Option.bind_some, hsaved.publicKey, has.publicKey]
      have hexpose := has.expose
      rw [hlink] at hexpose
      simpa using hexpose.symm

/-- **Exposures are kept.** In every history in which no expose request meets a link of its own
block: the record of an accepted expose request carries a key with the hash from the end of the block
on; the visible key is determined by what was asked, in whatever blocks; a revert takes no more than
the exposure from a record that stands. And the side condition is exact: an expose request that
meets a link of its block is accepted, and its key is not visible after the block. -/
theorem exposed_of_runFrom (env : LinkEnvironment) (events : List MLDSAEvent) (s : RequestedNode)
    (hmeets : Meets (RequestedNode.step env) (ExposesVisibly env) RequestedNode.init events)
    (hrun : runFrom (RequestedNode.step env) RequestedNode.init events = some s) :
    (∀ request ∈ s.accepted, ∀ publicKey, request.publicKey = some publicKey →
        request.blockHeight < s.node.height →
        ∃ record exposed,
          getByHashedPublicKey request.hashedPublicKey s.node.height s.node.keys = some record ∧
            record.legacyPublicKey = request.legacyPublicKey ∧ record.publicKey = some exposed ∧
            env.sha256 exposed = env.sha256 publicKey) ∧
      (∀ events' s',
        Meets (RequestedNode.step env) (ExposesVisibly env) RequestedNode.init events' →
        runFrom (RequestedNode.step env) RequestedNode.init events' = some s' →
        s.BlocksEnded → s'.BlocksEnded → ∀ hashedPublicKey,
        (s.requestsFor hashedPublicKey).map AcceptedRequest.asked
          = (s'.requestsFor hashedPublicKey).map AcceptedRequest.asked →
        s.node.visibleKey hashedPublicKey = s'.node.visibleKey hashedPublicKey) ∧
      (∀ blockId s', s.step env (.revertDataUntilBlock blockId) = some s' →
        ∀ hashedPublicKey record,
        getByHashedPublicKey hashedPublicKey s.node.height s.node.keys = some record →
        record.insertedBlockHeight.any (· < blockId) →
        getByHashedPublicKey hashedPublicKey s'.node.height s'.node.keys
          = some (if record.exposedBlockHeight.any (blockId ≤ ·) then
              { record with publicKey := none, exposedBlockHeight := none } else record)) ∧
      ∀ senderPubKey request e, wellSigned env senderPubKey request → request.verifyRequest →
        s.node.mldsaToStore.get request.hashedPublicKey = some e →
        e.data.legacyPublicKey = senderPubKey → e.exposePublicKey = false →
        s.node.linkSender env senderPubKey request = .ok s.node ∧
          ∀ node', mldsaStep env s.node .completeBlock = some node' →
            node'.visibleKey request.hashedPublicKey = none := by
  have hinv := exposureInv_run hmeets hrun
  refine ⟨?_, ?_, ?_, ?_⟩
  · intro request hmem publicKey hpublicKey hended
    exact exposed_of_inv hinv hmem hpublicKey hended
  · intro events' s' hmeets' hrun' hended hended' hashedPublicKey hasked
    have hinv' := exposureInv_run hmeets' hrun'
    rw [visibleKey_of_blocksEnded hinv hended, visibleKey_of_blocksEnded hinv' hended', hasked]
  · intro blockId s' hstep hashedPublicKey record hrecord hinserted
    exact getByHashedPublicKey_revert hinv hstep hrecord hinserted
  · intro senderPubKey request e hsigned _ hpending hlegacy hlink
    exact visibleKey_of_pendingLink hinv hsigned hpending hlegacy hlink

/-! ### One user -/

/-- A public key of level 2, and its SHA-256. -/
def shownKey : Bytes := List.replicate 1312 7

def shownHash : Bytes :=
  bigEndian 32 0x435a04f4eebae13d5f684ac705cb77009866b9fc0e4ddac53ad9f4677a450363

/-- Everybody signs his own requests, with both of his keys. -/
def revealingUsers : LinkEnvironment :=
  { twoUsers with
    sha256 := fun data => if data = shownKey then shownHash else []
    verifyMLDSASignature := fun _ _ _ _ => true }

def exposeShownKey : MLDSARequestData where
  verifyRequest := true
  hashedPublicKey := shownHash
  publicKey := some shownKey
  level := .LEVEL2
  mldsaSignature := some (List.replicate 2420 1)
  legacySignature := List.replicate 64 1

/-- A user links a key in block 1 and exposes it in block 2. -/
def linkThenExpose : List MLDSAEvent :=
  [.completeBlock, .transaction victimKey (some (linkTo shownHash)), .completeBlock,
    .transaction victimKey (some exposeShownKey), .completeBlock]

/-- The user links and exposes the key in block 1. -/
def linkAndExpose : List MLDSAEvent :=
  [.completeBlock, .transaction victimKey (some (linkTo shownHash)),
    .transaction victimKey (some exposeShownKey), .completeBlock, .completeBlock]

theorem exposed_linkThenExpose :
    ∃ s record exposed,
      runFrom (RequestedNode.step revealingUsers) RequestedNode.init linkThenExpose = some s ∧
      getByHashedPublicKey shownHash s.node.height s.node.keys = some record ∧
      record.legacyPublicKey = victimKey ∧ record.publicKey = some exposed ∧
      revealingUsers.sha256 exposed = revealingUsers.sha256 shownKey := by
  have hmeets : Meets (RequestedNode.step revealingUsers) (ExposesVisibly revealingUsers)
      RequestedNode.init linkThenExpose := by decide +kernel
  have hfields : (runFrom (RequestedNode.step revealingUsers) RequestedNode.init
        linkThenExpose).map (fun s => (s.node.height, s.accepted))
      = some (3, [⟨shownHash, victimKey, none, 1⟩, ⟨shownHash, victimKey, some shownKey, 2⟩]) := by
    decide +kernel
  obtain ⟨s, hrun, hfields⟩ := Option.map_eq_some_iff.mp hfields
  rw [Prod.mk.injEq] at hfields
  obtain ⟨record, exposed, hrecord, hlegacy, hpublicKey, hhash⟩ :=
    (exposed_of_runFrom revealingUsers linkThenExpose s hmeets hrun).1
      ⟨shownHash, victimKey, some shownKey, 2⟩ (by simp [hfields.2]) shownKey rfl
      (by rw [hfields.1]; decide)
  exact ⟨s, record, exposed, hrun, hrecord, hlegacy, hpublicKey, hhash⟩

/-- The same two requests, both accepted: the key is visible if they are in two blocks, and is not
if they are in one. -/
theorem not_exposed_linkAndExpose :
    ∃ s s',
      runFrom (RequestedNode.step revealingUsers) RequestedNode.init linkAndExpose = some s ∧
      runFrom (RequestedNode.step revealingUsers) RequestedNode.init linkThenExpose = some s' ∧
      s.accepted = [⟨shownHash, victimKey, none, 1⟩, ⟨shownHash, victimKey, some shownKey, 1⟩] ∧
      s'.accepted = [⟨shownHash, victimKey, none, 1⟩, ⟨shownHash, victimKey, some shownKey, 2⟩] ∧
      s.node.height = 3 ∧ s'.node.height = 3 ∧
      s.node.visibleKey shownHash = none ∧ s'.node.visibleKey shownHash = some shownKey := by
  have hone : (runFrom (RequestedNode.step revealingUsers) RequestedNode.init
        linkAndExpose).map (fun s => (s.accepted, s.node.height, s.node.visibleKey shownHash))
      = some ([⟨shownHash, victimKey, none, 1⟩, ⟨shownHash, victimKey, some shownKey, 1⟩], 3,
        none) := by decide +kernel
  have htwo : (runFrom (RequestedNode.step revealingUsers) RequestedNode.init
        linkThenExpose).map (fun s => (s.accepted, s.node.height, s.node.visibleKey shownHash))
      = some ([⟨shownHash, victimKey, none, 1⟩, ⟨shownHash, victimKey, some shownKey, 2⟩], 3,
        some shownKey) := by decide +kernel
  obtain ⟨s, hrun, hfields⟩ := Option.map_eq_some_iff.mp hone
  obtain ⟨s', hrun', hfields'⟩ := Option.map_eq_some_iff.mp htwo
  rw [Prod.mk.injEq, Prod.mk.injEq] at hfields hfields'
  exact ⟨s, s', hrun, hrun', hfields.1, hfields'.1, hfields.2.1, hfields'.2.1, hfields.2.2,
    hfields'.2.2⟩

end OpnetNode
