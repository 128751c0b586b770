import OpnetNode.Mldsa.Equiv.LinkInvariant

/-!
# Who a tweaked key resolves to

A transaction signed by the tweaked key `t` should be executed as the identity `t` was linked to,
whether the link is pending or stored.

* `senderResolution`: in every history in which nobody links the bytes of `t` as a hashed key and `t`
  is linked through one legacy key, `t` resolves to its first link.
* `senderResolution_hijacked`: whoever links a victim's tweaked key as his hashed key is who the
  victim's transactions resolve to from the next block on, because the collection is asked for `t`
  in all three roles.
-/

namespace OpnetNode

open MLDSAPublicKeyRepository

instance decidableLinksHonestly (env : LinkEnvironment) (t : Bytes) (node : MLDSANode)
    (senderPubKey : Bytes) (request : MLDSARequestData) :
    Decidable (LinksHonestly env t node senderPubKey request) :=
  inferInstanceAs (Decidable (_ ∧ _))

/-- The side condition on a history's events: accepted requests link honestly. -/
def linkOk (env : LinkEnvironment) (t : Bytes) (node : MLDSANode) : MLDSAEvent → Prop
  | .transaction senderPubKey (some request) =>
    (node.assignMLDSAToLegacy env senderPubKey (some request)).1.isOk →
      LinksHonestly env t node senderPubKey request
  | .transaction _ none => True
  | .completeBlock => True
  | .revertDataUntilBlock _ => True

instance decidableLinkOk (env : LinkEnvironment) (t : Bytes) (node : MLDSANode) :
    ∀ event, Decidable (linkOk env t node event)
  | .transaction _ (some _) => inferInstanceAs (Decidable (_ → _))
  | .transaction _ none => isTrue trivial
  | .completeBlock => isTrue trivial
  | .revertDataUntilBlock _ => isTrue trivial

variable {env : LinkEnvironment} {t : Bytes}

variable {node node' : MLDSANode}

theorem linkInv_step {event : MLDSAEvent}
    (hinv : ∃ pending, LinkInv env t node pending) (hok : linkOk env t node event)
    (hstep : mldsaStep env node event = some node') :
    ∃ pending, LinkInv env t node' pending := by
  obtain ⟨pending, hinv⟩ := hinv
  cases event with
  | transaction senderPubKey mldsaLinkRequest =>
    rw [mldsaStep] at hstep
    cases hstep
    cases mldsaLinkRequest with
    | none => exact ⟨pending, linkInv_regenerateProvenance hinv senderPubKey⟩
    | some request =>
      rw [linkOk] at hok
      unfold MLDSANode.assignMLDSAToLegacy at hok ⊢
      dsimp only at hok ⊢
      cases hlink : node.linkSender env senderPubKey request with
      | error e => exact ⟨pending, hinv⟩
      | ok node' =>
        rw [hlink] at hok
        rcases linkSender_cases hlink with rfl | ⟨exposePublicKey, key, hrec, rfl⟩
        · exact ⟨pending, hinv⟩
        · exact ⟨_, linkInv_setPending hinv hrec (hok rfl)⟩
  | completeBlock =>
    rw [mldsaStep] at hstep
    split at hstep
    · cases hstep
    · rename_i keys hsave
      cases hstep
      exact ⟨[], linkInv_completeBlock hinv hsave⟩
  | revertDataUntilBlock blockId =>
    rw [mldsaStep] at hstep
    split at hstep
    · rename_i hle
      cases hstep
      exact ⟨[], linkInv_revertDataUntilBlock hinv hle⟩
    · cases hstep

theorem linkInv_run {events : List MLDSAEvent}
    (hmeets : Meets (mldsaStep env) (linkOk env t) MLDSANode.init events)
    (hrun : runFrom (mldsaStep env) MLDSANode.init events = some node) :
    ∃ pending, LinkInv env t node pending :=
  invariant_runFrom (P := fun node => ∃ pending, LinkInv env t node pending)
    (fun _ _ _ hinv hok hstep => linkInv_step hinv hok hstep) events MLDSANode.init node
    ⟨[], linkInv_init⟩ hmeets hrun

/-- A record that `t` resolves to is that of a link of `t`. -/
theorem exists_link_of_lookup {pending : List MLDSAUpdateData}
    (ht : t.length = 32) (hinv : LinkInv env t node pending) {record : MLDSAPublicKey}
    (hrecord : (node.getMLDSAPublicKeyFromLegacyKey t).1 = some record) :
    ∃ link ∈ node.links, link.tweakedPublicKey = t ∧ record.identity = link.identity := by
  have hlookup := lookup_eq_firstLink ht hinv
  rw [hrecord, Option.map_some] at hlookup
  obtain ⟨link, hlink, hid⟩ := Option.map_eq_some_iff.mp hlookup.symm
  have htw : link.tweakedPublicKey = t := by simpa using List.find?_some hlink
  exact ⟨link, List.mem_of_find?_eq_some hlink, htw, hid.symm⟩

theorem links_completeBlock
    (h : mldsaStep env node .completeBlock = some node') : node'.links = node.links := by
  rw [mldsaStep] at h
  split at h
  · cases h
  · cases h
    rfl

/-- **Sender resolution.** In every history in which the accepted requests link honestly with
respect to the tweaked key `t`: `t` resolves to nothing or to a record of `t`; the answer is the
first link of `t`, be it pending or stored, and so stays the same when the block is completed; and a
transaction signed by `t` is executed only as an identity `t` linked. -/
theorem senderResolution (env : LinkEnvironment) (t : Bytes) (ht : t.length = 32)
    (events : List MLDSAEvent) (node : MLDSANode)
    (hmeets : Meets (mldsaStep env) (linkOk env t) MLDSANode.init events)
    (hrun : runFrom (mldsaStep env) MLDSANode.init events = some node) :
    (∀ record, (node.getMLDSAPublicKeyFromLegacyKey t).1 = some record →
        record.tweakedPublicKey = t) ∧
      (node.getMLDSAPublicKeyFromLegacyKey t).1.map MLDSAPublicKey.identity
        = (firstLink t node.links).map MLDSAPublicKey.identity ∧
      (∀ node', mldsaStep env node .completeBlock = some node' →
        (node'.getMLDSAPublicKeyFromLegacyKey t).1.map MLDSAPublicKey.identity
          = (node.getMLDSAPublicKeyFromLegacyKey t).1.map MLDSAPublicKey.identity) ∧
      ∀ senderPubKey sender, env.tweakedPublicKey senderPubKey = t →
        (node.assignMLDSAToLegacy env senderPubKey none).1 = .ok sender →
        ∃ link ∈ node.links, link.tweakedPublicKey = t ∧
          link.hashedPublicKey = sender.mldsaPublicKey := by
  obtain ⟨pending, hinv⟩ := linkInv_run hmeets hrun
  have hlookup := lookup_eq_firstLink ht hinv
  refine ⟨?_, hlookup, ?_, ?_⟩
  · intro record hrecord
    obtain ⟨link, -, htw, hid⟩ := exists_link_of_lookup ht hinv hrecord
    rw [← htw]
    exact congrArg (fun identity => identity.2.2.1) hid
  · -- completing the block moves the links from the pending maps to the collection
    intro node' hstep
    have hok : linkOk env t node .completeBlock := trivial
    obtain ⟨pending', hinv'⟩ := linkInv_step ⟨pending, hinv⟩ hok hstep
    rw [lookup_eq_firstLink ht hinv', hlookup, links_completeBlock hstep]
  · intro senderPubKey sender hsender hassign
    unfold MLDSANode.assignMLDSAToLegacy MLDSANode.regenerateProvenance at hassign
    rw [hsender] at hassign
    dsimp only at hassign
    split at hassign
    · cases hassign
    · rename_i keyData node' heq
      have hlookup : (node.getMLDSAPublicKeyFromLegacyKey t).1 = some keyData := by rw [heq]
      obtain ⟨link, hmem, htw, hid⟩ := exists_link_of_lookup ht hinv hlookup
      cases hassign
      exact ⟨link, hmem, htw, (congrArg Prod.fst hid).symm⟩

/-! ### Two users -/

def bigEndian (length value : ℕ) : Bytes :=
  ((List.range length).map fun i => UInt8.ofNat (value >>> (8 * i))).reverse

/-- The compressed secp256k1 points `G` and `2G`. -/
def attackerKey : Bytes :=
  bigEndian 33 0x0279be667ef9dcbbac55a06295ce870b07029bfcdb2dce28d959f2815b16f81798

def victimKey : Bytes :=
  bigEndian 33 0x02c6047f9441ed7d6d3045406e95c07cd85c778e4b8cef3ca7abac09b95c709ee5

/-- Their taproot output keys. -/
def attackerTweaked : Bytes :=
  bigEndian 32 0xda4710964f7852695de2da025290e24af6d8c281de5a0b902b7135fd9fd74d21

def victimTweaked : Bytes :=
  bigEndian 32 0xcafd90c7026f0b6ab98df89490d02732881f2f4b5900856358dddff4679c2ffb

/-- The tweak on the two keys; everybody signs his own requests, and nobody reveals a key. -/
def twoUsers : LinkEnvironment where
  tweakedPublicKey key := if key = attackerKey then attackerTweaked else victimTweaked
  sha256 data := data
  verifySignature _ _ _ := true
  verifyMLDSASignature _ _ _ _ := false
  levelToU8 _ := 44
  ENABLED_LEVELS := [.LEVEL2]
  PROTOCOL_ID := bigEndian 32 0xe784995a412d773988c4b8e333d7b39dfb3cabf118d0d645411a916ca2407939
  chainId := List.replicate 32 0

def linkTo (hashedPublicKey : Bytes) : MLDSARequestData where
  verifyRequest := false
  hashedPublicKey := hashedPublicKey
  publicKey := none
  level := .LEVEL2
  mldsaSignature := none
  legacySignature := List.replicate 64 1

/-- The victim links an identity, the attacker another, and the block is completed. -/
def honestLinks : List MLDSAEvent :=
  [.transaction victimKey (some (linkTo (List.replicate 32 7))),
    .transaction attackerKey (some (linkTo (List.replicate 32 8))), .completeBlock]

theorem senderResolution_honestLinks :
    ∃ node record, runFrom (mldsaStep twoUsers) MLDSANode.init honestLinks = some node ∧
      (node.getMLDSAPublicKeyFromLegacyKey victimTweaked).1 = some record ∧
      record.hashedPublicKey = List.replicate 32 7 ∧ record.tweakedPublicKey = victimTweaked := by
  have hmeets : Meets (mldsaStep twoUsers) (linkOk twoUsers victimTweaked) MLDSANode.init
      honestLinks := by decide +kernel
  obtain ⟨node, hrun⟩ : ∃ node, runFrom (mldsaStep twoUsers) MLDSANode.init honestLinks
      = some node := Option.isSome_iff_exists.mp (by decide +kernel)
  have hanswer : ((runFrom (mldsaStep twoUsers) MLDSANode.init honestLinks).bind fun node =>
      (node.getMLDSAPublicKeyFromLegacyKey victimTweaked).1).map MLDSAPublicKey.hashedPublicKey
      = some (List.replicate 32 7) := by decide +kernel
  rw [hrun, Option.bind_some] at hanswer
  obtain ⟨record, hrecord, hhashed⟩ := Option.map_eq_some_iff.mp hanswer
  exact ⟨node, record, hrun, hrecord, hhashed,
    (senderResolution twoUsers victimTweaked (by decide +kernel) honestLinks node hmeets hrun).1
      record hrecord⟩

/-- The attacker links the victim's tweaked key as his hashed key: in the next block a transaction
signed by the victim's key resolves to the attacker's record. -/
theorem senderResolution_hijacked :
    let node := runFrom (mldsaStep twoUsers) MLDSANode.init
      [.transaction attackerKey (some (linkTo victimTweaked)), .completeBlock]
    (node.bind fun node => (node.getMLDSAPublicKeyFromLegacyKey victimTweaked).1).map
        (fun record => (record.legacyPublicKey, record.tweakedPublicKey))
        = some (attackerKey, attackerTweaked) ∧
      attackerTweaked ≠ victimTweaked ∧
      (node.bind fun node => (node.assignMLDSAToLegacy twoUsers victimKey none).1.toOption)
        = some ⟨victimTweaked, victimTweaked⟩ := by
  decide +kernel

end OpnetNode
