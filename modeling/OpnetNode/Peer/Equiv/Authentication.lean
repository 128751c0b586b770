import OpnetNode.Peer.AuthenticationManager

/-!
# What authentication implies

A peer is marked authenticated at the end of the handler of a cipher exchange. Its key is one that was
announced, and its answer is one to the challenge that was issued; but the announcement may have named
a version that no checksum is known for, or another network, and the handlers go on after
`disconnectPeer` has been called.

* `Checked`: what a packet has to announce.
* `Authorised`: what holds of an exchange that is to be marked.
* `AuthInv`: the invariant of the runs in which only checked packets are accepted.
-/

namespace OpnetNode

namespace P2PVersion

/-- A number in decimal digits. -/
def decimal? (part : List Char) : Option ℕ :=
  if part ≠ [] ∧ part.all Char.isDigit then some (Nat.ofDigitChars 10 part 0) else none

/-- The same major and a minor number that is not lower. -/
def NotOlder (peerVersion : String) : Prop :=
  (parts peerVersion)[0]? = (parts CURRENT_PROTOCOL_VERSION)[0]? ∧
    ∃ minor own, (parts peerVersion)[1]?.bind decimal? = some minor ∧
      (parts CURRENT_PROTOCOL_VERSION)[1]?.bind decimal? = some own ∧ own ≤ minor

theorem notOlder_of_known {version : String} (h : (PROTOCOL_CHECKSUM version).isSome) :
    NotOlder version := by
  unfold PROTOCOL_CHECKSUM at h
  split at h
  · rename_i hversion
    rw [hversion]
    exact ⟨by decide, 0, 0, by decide, by decide, Nat.le_refl 0⟩
  · split at h
    · rename_i hversion
      rw [hversion]
      exact ⟨by decide, 0, 0, by decide, by decide, Nat.le_refl 0⟩
    · cases h

theorem checksum_eq {version protocolChecksum : String} (h : (PROTOCOL_CHECKSUM version).isSome)
    (haccept : mayAcceptProtocolChecksum version protocolChecksum = false) :
    PROTOCOL_CHECKSUM version = some protocolChecksum := by
  unfold mayAcceptProtocolChecksum at haccept
  cases hknown : PROTOCOL_CHECKSUM version with
  | none =>
    rw [hknown] at h
    cases h
  | some known =>
    rw [hknown] at haccept
    simpa using haccept

end P2PVersion

namespace AuthenticationManager

open P2PVersion

variable {env : AuthEnvironment} {s s' : AuthenticationManager}

/-! ### What is to hold -/

/-- What a peer has to announce. -/
structure Checked (env : AuthEnvironment) (packet : IAuthenticationPacket) : Prop where
  version : NotOlder packet.version
  checksum : PROTOCOL_CHECKSUM packet.version = some packet.protocolChecksum
  network : env.selfIdentity = some ⟨packet.network, packet.chainId⟩
  key : packet.clientAuthCipher.length = 32

/-- The key was announced by a checked packet. -/
def Announced (env : AuthEnvironment) (s : AuthenticationManager) (key : Bytes) : Prop :=
  ∃ packet ∈ s.announced, Checked env packet ∧ packet.clientAuthCipher = key

/-- The exchange answers the challenge that was issued, with a key that was announced. -/
def Authorised (env : AuthEnvironment) (s : AuthenticationManager)
    (exchange : IClientKeyCipherExchangePacket) : Prop :=
  Announced env s exchange.clientAuthCipher ∧
    ∃ challenge, s.identityChallenge = some challenge ∧
      env.verifyChallenge challenge exchange.challenge exchange.clientAuthCipher = some true

/-- A peer that is authenticated was marked, every exchange that was marked is authorised, and none was
marked after `disconnectPeer`. -/
def ImpliesChecks (env : AuthEnvironment) (s : AuthenticationManager) : Prop :=
  (s.isAuthenticated → s.marks ≠ []) ∧
    ∀ mark ∈ s.marks, mark.disconnected = false ∧ Authorised env s mark.packet

/-! ### Which steps are meant -/

/-- The packet is accepted by the checks of its version and checksum. -/
def Accepted (packet : IAuthenticationPacket) : Prop :=
  mayAcceptVersion packet.version ∧
    mayAcceptProtocolChecksum packet.version packet.protocolChecksum = false

/-- The exchange of a handler that has passed both verifications. -/
def verified? : AuthHandler → Bool
  | .challengeVerified _ | .sendingHandshake _ | .handshaken _ => true
  | _ => false

/-- An accepted packet announces a known version and the node's own network, and no handler that has
passed both verifications goes on once `disconnectPeer` has been called. -/
def Orderly (env : AuthEnvironment) (s : AuthenticationManager) : AuthEvent → Prop
  | .authentication packet =>
    Accepted packet → (PROTOCOL_CHECKSUM packet.version).isSome ∧
      env.selfIdentity = some ⟨packet.network, packet.chainId⟩
  | .goOn handler _ => s.handlers[handler]?.any verified? → s.disconnections = []
  | _ => True

instance decidableAccepted (packet : IAuthenticationPacket) : Decidable (Accepted packet) :=
  inferInstanceAs (Decidable (_ ∧ _))

instance decidableOrderly (env : AuthEnvironment) :
    ∀ (s : AuthenticationManager) (event : AuthEvent), Decidable (Orderly env s event)
  | _, .authentication packet =>
    inferInstanceAs (Decidable (Accepted packet → (PROTOCOL_CHECKSUM packet.version).isSome ∧
      env.selfIdentity = some ⟨packet.network, packet.chainId⟩))
  | s, .goOn handler _ =>
    inferInstanceAs (Decidable (s.handlers[handler]?.any verified? → s.disconnections = []))
  | _, .cipherExchange _ | _, .badPacket | _, .fails _ | _, .timeout | _, .disconnect _ _ =>
    isTrue trivial

/-! ### The invariant -/

/-- What holds of a handler that waits. -/
def HandlerInv (env : AuthEnvironment) (s : AuthenticationManager) : AuthHandler → Prop
  | .verifyingNetwork packet => packet ∈ s.announced ∧ Checked env packet
  | .sendingStatus => True
  | .signatureVerified exchange => Announced env s exchange.clientAuthCipher
  | .challengeVerified exchange | .sendingHandshake exchange | .handshaken exchange =>
    Authorised env s exchange

structure AuthInv (env : AuthEnvironment) (s : AuthenticationManager) : Prop where
  checks : ImpliesChecks env s
  key : ∀ key, s.clientSignaturePublicKey = some key → Announced env s key
  handlers : ∀ waiting ∈ s.handlers, HandlerInv env s waiting

theorem authInv_init (env : AuthEnvironment) : AuthInv env init := by
  refine ⟨⟨?_, ?_⟩, ?_, ?_⟩
  · intro hauthenticated
    cases hauthenticated
  · intro mark hmark
    cases hmark
  · intro key hkey
    cases hkey
  · intro waiting hwaiting
    cases hwaiting

/-- What was announced and issued in one state is so in another. -/
structure Extends (s s' : AuthenticationManager) : Prop where
  announced : ∀ packet ∈ s.announced, packet ∈ s'.announced
  challenge : ∀ challenge, s.identityChallenge = some challenge →
    s'.identityChallenge = some challenge

theorem Extends.same (hannounced : s'.announced = s.announced)
    (hchallenge : s'.identityChallenge = s.identityChallenge) : Extends s s' := by
  refine ⟨?_, ?_⟩
  · rw [hannounced]
    exact fun _ hpacket => hpacket
  · rw [hchallenge]
    exact fun _ hissued => hissued

theorem Announced.mono {key : Bytes} (h : Announced env s key) (hext : Extends s s') :
    Announced env s' key := by
  obtain ⟨packet, hmem, hchecked, hkey⟩ := h
  exact ⟨packet, hext.announced packet hmem, hchecked, hkey⟩

variable {exchange : IClientKeyCipherExchangePacket}

theorem Authorised.mono (h : Authorised env s exchange)
    (hext : Extends s s') : Authorised env s' exchange := by
  obtain ⟨hannounced, challenge, hissued, hvalid⟩ := h
  exact ⟨hannounced.mono hext, challenge, hext.challenge challenge hissued, hvalid⟩

variable {waiting : AuthHandler}

theorem HandlerInv.mono (h : HandlerInv env s waiting)
    (hext : Extends s s') : HandlerInv env s' waiting := by
  cases waiting with
  | verifyingNetwork packet => exact ⟨hext.announced packet h.1, h.2⟩
  | sendingStatus => trivial
  | signatureVerified exchange => exact Announced.mono h hext
  | challengeVerified | sendingHandshake | handshaken => exact Authorised.mono h hext

theorem AuthInv.frame (h : AuthInv env s) (hext : Extends s s')
    (hauthenticated : s'.isAuthenticated = s.isAuthenticated) (hmarks : s'.marks = s.marks)
    (hkey : s'.clientSignaturePublicKey = s.clientSignaturePublicKey)
    (hhandlers : ∀ waiting ∈ s'.handlers, waiting ∈ s.handlers ∨ HandlerInv env s' waiting) :
    AuthInv env s' := by
  refine ⟨⟨?_, ?_⟩, ?_, ?_⟩
  · rw [hauthenticated, hmarks]
    exact h.checks.1
  · rw [hmarks]
    intro mark hmark
    obtain ⟨hbefore, hauthorised⟩ := h.checks.2 mark hmark
    exact ⟨hbefore, hauthorised.mono hext⟩
  · rw [hkey]
    intro key hsome
    exact (h.key key hsome).mono hext
  · intro waiting hwaiting
    rcases hhandlers waiting hwaiting with hold | hnew
    · exact (h.handlers waiting hold).mono hext
    · exact hnew

theorem AuthInv.disconnectPeer (h : AuthInv env s) (code : DisconnectionCode) (reason : String) :
    AuthInv env (s.disconnectPeer code reason) :=
  h.frame (.same rfl rfl) rfl rfl rfl fun _ hwaiting => Or.inl hwaiting

theorem AuthInv.throws (h : AuthInv env s) : AuthInv env s.throws := by
  have hcounted : AuthInv env { s with badPacketCount := s.badPacketCount + 1 } :=
    h.frame (.same rfl rfl) rfl rfl rfl fun _ hwaiting => Or.inl hwaiting
  unfold AuthenticationManager.throws
  dsimp only
  split
  · exact hcounted.disconnectPeer _ _
  · exact hcounted

theorem AuthInv.send (h : AuthInv env s) (packet : ServerPacket) : AuthInv env (s.send packet) :=
  h.frame (.same rfl rfl) rfl rfl rfl fun _ hwaiting => Or.inl hwaiting

theorem AuthInv.wait (h : AuthInv env s) (hwaiting : HandlerInv env s waiting) :
    AuthInv env (s.wait waiting) := by
  have hext : Extends s (s.wait waiting) := .same rfl rfl
  apply h.frame hext rfl rfl rfl
  intro other hother
  rcases List.mem_append.mp hother with hother | hother
  · exact Or.inl hother
  · rw [List.mem_singleton.mp hother]
    exact Or.inr (hwaiting.mono hext)

theorem AuthInv.without (h : AuthInv env s) (handler : ℕ) : AuthInv env (s.without handler) :=
  h.frame (.same rfl rfl) rfl rfl rfl fun _ hwaiting =>
    Or.inl (List.mem_of_mem_eraseIdx hwaiting)

/-! ### An announcement -/

theorem AuthInv.verifyNetwork (h : AuthInv env s) (identity : OPNetIdentity) :
    AuthInv env (s.verifyNetwork identity) := by
  unfold AuthenticationManager.verifyNetwork
  split
  · exact h.disconnectPeer _ _
  · split
    · exact h.disconnectPeer _ _
    · exact h

theorem announced_verifyNetwork (identity : OPNetIdentity) :
    (s.verifyNetwork identity).announced = s.announced := by
  unfold AuthenticationManager.verifyNetwork
  split
  · rfl
  · split
    · rfl
    · rfl

variable {packet : IAuthenticationPacket}

theorem AuthInv.takeAuthentication (h : AuthInv env s)
    (hannounced : packet ∈ s.announced) (hchecked : Checked env packet) :
    AuthInv env (s.takeAuthentication env packet) := by
  have htaken : AuthInv env
      { s with
        clientVersion := some packet.version
        clientNetwork := some packet.network
        clientIndexerMode := some packet.type
        clientChainId := some packet.chainId } :=
    h.frame (.same rfl rfl) rfl rfl rfl fun _ hwaiting => Or.inl hwaiting
  unfold AuthenticationManager.takeAuthentication
  dsimp only
  split
  · exact htaken.throws
  · apply (htaken.verifyNetwork _).wait
    refine ⟨?_, hchecked⟩
    rw [announced_verifyNetwork]
    exact hannounced

theorem AuthInv.onAuthenticationMessage (h : AuthInv env s) (hannounced : packet ∈ s.announced)
    (horderly : Accepted packet → (PROTOCOL_CHECKSUM packet.version).isSome ∧
      env.selfIdentity = some ⟨packet.network, packet.chainId⟩) :
    AuthInv env (s.onAuthenticationMessage env packet) := by
  unfold AuthenticationManager.onAuthenticationMessage
  split
  · exact h.disconnectPeer _ _
  split
  · exact h.disconnectPeer _ _
  rename_i hversion
  split
  · exact h.disconnectPeer _ _
  rename_i hchecksum
  split
  · exact h.send _
  split
  · exact h.disconnectPeer _ _
  rename_i hkey
  have haccepted : Accepted packet := ⟨by simpa using hversion, by simpa using hchecksum⟩
  obtain ⟨hknown, hnetwork⟩ := horderly haccepted
  apply h.takeAuthentication hannounced
  exact ⟨notOlder_of_known hknown, checksum_eq hknown haccepted.2, hnetwork, by simpa using hkey⟩

theorem AuthInv.createFullAuthentication (h : AuthInv env s) (challenge : Bytes) :
    AuthInv env (s.createFullAuthentication challenge) := by
  have hgenerated : AuthInv env { s with serverCipherKeyPair := true } :=
    h.frame (.same rfl rfl) rfl rfl rfl fun _ hwaiting => Or.inl hwaiting
  unfold AuthenticationManager.createFullAuthentication
  dsimp only
  split
  · exact h.disconnectPeer _ _
  split
  · exact hgenerated.throws
  rename_i hnone
  have hissued : AuthInv env
      { s with
        serverCipherKeyPair := true
        identityChallenge := some challenge } := by
    refine h.frame ⟨fun _ h => h, ?_⟩ rfl rfl rfl fun _ hwaiting => Or.inl hwaiting
    intro challenge' hsome
    simp [hsome] at hnone
  exact (hissued.send _).wait trivial

theorem AuthInv.onNetworkVerified (h : AuthInv env s)
    (hannounced : packet ∈ s.announced) (hchecked : Checked env packet) (challenge : Bytes) :
    AuthInv env (s.onNetworkVerified packet challenge) := by
  unfold AuthenticationManager.onNetworkVerified
  apply AuthInv.createFullAuthentication
  have hext : Extends s
      { s with
        clientSignaturePublicKey := some packet.clientAuthCipher
        passVersionCheck := true } := .same rfl rfl
  refine ⟨⟨h.checks.1, ?_⟩, ?_, ?_⟩
  · intro mark hmark
    obtain ⟨hbefore, hauthorised⟩ := h.checks.2 mark hmark
    exact ⟨hbefore, hauthorised.mono hext⟩
  · intro key hkey
    cases hkey
    exact ⟨packet, hannounced, hchecked, rfl⟩
  · intro waiting hwaiting
    exact (h.handlers waiting hwaiting).mono hext

/-! ### An exchange -/

theorem AuthInv.onClientCipherExchangeMessage (h : AuthInv env s)
    (exchange : IClientKeyCipherExchangePacket) :
    AuthInv env (s.onClientCipherExchangeMessage exchange) := by
  unfold AuthenticationManager.onClientCipherExchangeMessage
  split
  · exact h.disconnectPeer _ _
  split
  · exact h.disconnectPeer _ _
  rename_i key hsome
  split
  · exact h.disconnectPeer _ _
  rename_i hkey
  have hkey : key = exchange.clientAuthCipher := by simpa using hkey
  rw [hkey] at hsome
  exact h.wait (h.key _ hsome)

theorem AuthInv.verifyChallenge (h : AuthInv env s)
    (hannounced : Announced env s exchange.clientAuthCipher) :
    AuthInv env (s.verifyChallenge env exchange) := by
  unfold AuthenticationManager.verifyChallenge
  split
  · rename_i challenge identity hissued hidentity
    split
    · exact h.throws
    · exact h.disconnectPeer _ _
    · rename_i hvalid
      exact h.wait ⟨hannounced, challenge, hissued, hvalid⟩
  · exact h.throws

theorem AuthInv.sendServerHandshake (h : AuthInv env s)
    (hauthorised : Authorised env s exchange) : AuthInv env (s.sendServerHandshake exchange) := by
  unfold AuthenticationManager.sendServerHandshake
  split
  · exact (h.disconnectPeer _ _).wait (hauthorised.mono (.same rfl rfl))
  split
  · exact (h.disconnectPeer _ _).wait (hauthorised.mono (.same rfl rfl))
  · exact (h.send _).wait (hauthorised.mono (.same rfl rfl))

theorem AuthInv.mark (h : AuthInv env s)
    (hauthorised : Authorised env s exchange) (hconnected : s.disconnections = []) :
    AuthInv env (s.mark exchange) := by
  have hext : Extends s (s.mark exchange) := .same rfl rfl
  refine ⟨⟨fun _ => ?_, ?_⟩, ?_, ?_⟩
  · simp [AuthenticationManager.mark]
  · intro mark hmark
    rcases List.mem_append.mp hmark with hmark | hmark
    · obtain ⟨hbefore, hold⟩ := h.checks.2 mark hmark
      exact ⟨hbefore, hold.mono hext⟩
    · rw [List.mem_singleton.mp hmark]
      exact ⟨by simp [hconnected], hauthorised.mono hext⟩
  · intro key hkey
    exact (h.key key hkey).mono hext
  · intro waiting hwaiting
    exact (h.handlers waiting hwaiting).mono hext

/-! ### Steps and runs -/

theorem AuthInv.goOn (h : AuthInv env s) (challenge : Bytes)
    (hwaiting : HandlerInv env s waiting) (hconnected : verified? waiting → s.disconnections = []) :
    AuthInv env (s.goOn env challenge waiting) := by
  cases waiting with
  | verifyingNetwork packet => exact h.onNetworkVerified hwaiting.1 hwaiting.2 challenge
  | sendingStatus =>
    exact h.frame (.same rfl rfl) rfl rfl rfl fun _ hother => Or.inl hother
  | signatureVerified exchange => exact h.verifyChallenge hwaiting
  | challengeVerified exchange =>
    have hset : AuthInv env
        { s with
          clientIdentity := some (toHex exchange.identity)
          clientPublicKey := some exchange.clientKeyCipher } :=
      h.frame (.same rfl rfl) rfl rfl rfl fun _ hother => Or.inl hother
    exact hset.sendServerHandshake (Authorised.mono hwaiting (.same rfl rfl))
  | sendingHandshake exchange =>
    have hstarted : AuthInv env { s with encryptionStarted := true } :=
      h.frame (.same rfl rfl) rfl rfl rfl fun _ hother => Or.inl hother
    have hauthorised : Authorised env { s with encryptionStarted := true } exchange :=
      Authorised.mono hwaiting (.same rfl rfl)
    exact (hstarted.mark hauthorised (hconnected rfl)).wait
      (hauthorised.mono (.same rfl rfl))
  | handshaken exchange => exact h.mark hwaiting (hconnected rfl)

theorem authInv_step (env : AuthEnvironment) (s : AuthenticationManager) (event : AuthEvent)
    (s' : AuthenticationManager) (h : AuthInv env s) (horderly : Orderly env s event)
    (hstep : step env s event = some s') : AuthInv env s' := by
  cases event with
  | authentication packet =>
    cases hstep
    have hlogged : AuthInv env { s with announced := s.announced ++ [packet] } := by
      refine h.frame ⟨?_, fun _ h => h⟩ rfl rfl rfl fun _ hwaiting => Or.inl hwaiting
      exact fun other hother => List.mem_append_left _ hother
    exact hlogged.onAuthenticationMessage (by simp) horderly
  | cipherExchange exchange =>
    cases hstep
    exact h.onClientCipherExchangeMessage exchange
  | badPacket =>
    cases hstep
    exact h.throws
  | goOn handler challenge =>
    rw [step, Option.map_eq_some_iff] at hstep
    obtain ⟨waiting, hget, rfl⟩ := hstep
    have hwaiting := h.handlers waiting (List.mem_of_getElem? hget)
    have hconnected : verified? waiting → s.disconnections = [] := by
      simpa [Orderly, hget] using horderly
    exact (h.without handler).goOn challenge (hwaiting.mono (.same rfl rfl)) hconnected
  | fails handler =>
    rw [step, Option.map_eq_some_iff] at hstep
    obtain ⟨waiting, -, rfl⟩ := hstep
    exact (h.without handler).throws
  | timeout =>
    rw [step] at hstep
    split at hstep
    · cases hstep
      exact h.disconnectPeer _ _
    · cases hstep
  | disconnect code reason =>
    cases hstep
    exact h.disconnectPeer _ _

/-- **In an orderly run, authentication implies every check.** -/
theorem impliesChecks_of_runFrom (env : AuthEnvironment) (events : List AuthEvent)
    (s : AuthenticationManager) (horderly : Meets (step env) (Orderly env) init events)
    (hrun : runFrom (step env) init events = some s) : ImpliesChecks env s :=
  (invariant_runFrom (authInv_step env) events init s (authInv_init env) horderly hrun).checks

/-! ### Runs -/

/-- A signature is what the challenge begins with; one of another length throws. -/
def prefixSigning : AuthEnvironment where
  selfIdentity := some ⟨0, 0⟩
  verifyChallenge challenge signature key :=
    if signature.length = 64 ∧ key.length = 32 then some (signature = challenge.take 64) else none

/-- A packet of the version and network, with a key of 32 bytes. -/
def announcement (version protocolChecksum : String) (network : ℕ) : IAuthenticationPacket where
  version := version
  clientAuthCipher := List.replicate 32 1
  protocolChecksum := protocolChecksum
  type := 0
  network := network
  chainId := 0

def answer : IClientKeyCipherExchangePacket where
  clientKeyCipher := List.replicate 32 3
  clientAuthCipher := List.replicate 32 1
  identity := List.replicate 64 2
  challenge := List.replicate 64 7

/-- The packet, the challenge, the answer, and all that the handlers do. -/
def login (packet : IAuthenticationPacket) : List AuthEvent :=
  [.authentication packet, .goOn 0 (List.replicate 128 7), .goOn 0 [], .cipherExchange answer,
    .goOn 0 [], .goOn 0 [], .goOn 0 [], .goOn 0 []]

theorem impliesChecks_login :
    ((runFrom (step prefixSigning) init (login (announcement "0.0.2" "0x00000001" 0))).map
        fun s => s.isAuthenticated) = some true ∧
      ∀ s, runFrom (step prefixSigning) init (login (announcement "0.0.2" "0x00000001" 0)) = some s →
        ImpliesChecks prefixSigning s := by
  have hrun : Meets (step prefixSigning) (Orderly prefixSigning) init
        (login (announcement "0.0.2" "0x00000001" 0)) ∧
      ((runFrom (step prefixSigning) init (login (announcement "0.0.2" "0x00000001" 0))).map
        fun s => s.isAuthenticated) = some true := by
    decide +kernel
  exact ⟨hrun.2, fun s => impliesChecks_of_runFrom prefixSigning _ s hrun.1⟩

/-- A peer is authenticated that announced a version no checksum is known for, and one that announced
another network, after it was disconnected. -/
theorem not_impliesChecks_login :
    (∃ s, runFrom (step prefixSigning) init (login (announcement "0.9.0" "anything" 0)) = some s ∧
      s.isAuthenticated ∧ ¬ ImpliesChecks prefixSigning s) ∧
    ∃ s, runFrom (step prefixSigning) init (login (announcement "0.0.2" "0x00000001" 1)) = some s ∧
      s.isAuthenticated ∧ ¬ ImpliesChecks prefixSigning s := by
  have hversion : ((runFrom (step prefixSigning) init (login (announcement "0.9.0" "anything" 0))).map
      fun s => (s.isAuthenticated, s.announced)) =
        some (true, [announcement "0.9.0" "anything" 0]) := by
    decide +kernel
  have hnetwork : ((runFrom (step prefixSigning) init
      (login (announcement "0.0.2" "0x00000001" 1))).map
        fun s => (s.isAuthenticated, s.marks.map AuthenticationMark.disconnected)) =
          some (true, [true, true]) := by
    decide +kernel
  constructor
  · obtain ⟨s, hs, hfields⟩ := Option.map_eq_some_iff.mp hversion
    obtain ⟨hauthenticated, hannounced⟩ := Prod.mk.inj hfields
    refine ⟨s, hs, hauthenticated, ?_⟩
    rintro ⟨hmarked, hmarks⟩
    obtain ⟨mark, hmark⟩ := List.exists_mem_of_ne_nil _ (hmarked hauthenticated)
    obtain ⟨-, ⟨packet, hpacket, hchecked, -⟩, -⟩ := hmarks mark hmark
    rw [hannounced, List.mem_singleton] at hpacket
    have hchecksum := hchecked.checksum
    rw [hpacket] at hchecksum
    exact absurd hchecksum (by decide)
  · obtain ⟨s, hs, hfields⟩ := Option.map_eq_some_iff.mp hnetwork
    obtain ⟨hauthenticated, hdisconnected⟩ := Prod.mk.inj hfields
    refine ⟨s, hs, hauthenticated, ?_⟩
    rintro ⟨-, hmarks⟩
    have htrue : true ∈ s.marks.map AuthenticationMark.disconnected := by
      rw [hdisconnected]
      exact List.mem_cons_self
    obtain ⟨mark, hmark, hafter⟩ := List.mem_map.mp htrue
    rw [(hmarks mark hmark).1] at hafter
    cases hafter

end AuthenticationManager

end OpnetNode
