import OpnetNode.Hex
import OpnetNode.Json
import OpnetNode.Transition

/-!
# The server side of authentication

`AuthenticationManager` lets a peer authenticate by two packets: AUTHENTICATION, which announces a
version, a checksum, a network and a signing key, and CLIENT_CIPHER_EXCHANGE, which answers the
challenge. A handler is given up at every `await`, and the handlers of several packets may overlap.

* `mayAcceptVersion`, `mayAcceptProtocolChecksum`: the checks of a version.
* `onAuthenticationMessage`, `onClientCipherExchangeMessage`: the handlers, up to their first `await`.
* `AuthHandler`: where a handler waits; `goOn` is what it does then.
* `AuthenticationManager.step`: a packet arrives, a handler goes on, or the connection is closed from
  elsewhere.

Signatures are checked by a parameter, which may throw; the random challenge comes with the event. Of
the cipher keys it is only kept whether they were generated. A packet that does not unpack is a bad
packet, and the other packets change nothing here.
-/

namespace OpnetNode

/-! ### Versions -/

namespace P2PVersion

def CURRENT_PROTOCOL_VERSION : String := "0.0.2"

/-- `PROTOCOL_CHECKSUM[version]`. -/
def PROTOCOL_CHECKSUM (version : String) : Option String :=
  if version = "0.0.1" then some "0x00000000"
  else if version = "0.0.2" then some "0x00000001"
  else none

def split : List Char → List (List Char)
  | [] => [[]]
  | c :: rest =>
    if c = '.' then [] :: split rest
    else
      match split rest with
      | [] => [[c]]
      | part :: parts => (c :: part) :: parts

def parts (version : String) : List (List Char) := split version.toList

/-- `<` on texts: by code units. -/
def unitsLess : List ℕ → List ℕ → Bool
  | _, [] => false
  | [], _ :: _ => true
  | a :: as, b :: bs => a < b || (a = b && unitsLess as bs)

/-- `<`, where a part that is missing is `undefined`. -/
def textLess (a b : Option (List Char)) : Bool :=
  match a, b with
  | some a, some b => unitsLess (a.flatMap Json.codeUnits) (b.flatMap Json.codeUnits)
  | _, _ => false

def mayAcceptVersion (peerVersion : String) : Bool :=
  let peerVersionSplit := parts peerVersion
  let protocolVersionSplit := parts CURRENT_PROTOCOL_VERSION
  if peerVersionSplit[0]? ≠ protocolVersionSplit[0]? then false
  else if textLess peerVersionSplit[1]? protocolVersionSplit[1]? then false
  else true

/-- Despite its name, whether the checksum is refused. -/
def mayAcceptProtocolChecksum (peerVersion protocolChecksum : String) : Bool :=
  match PROTOCOL_CHECKSUM peerVersion with
  | none => false
  | some requestedVersionChecksum => requestedVersionChecksum ≠ protocolChecksum

end P2PVersion

/-! ### Packets -/

structure IAuthenticationPacket where
  version : String
  clientAuthCipher : Bytes
  protocolChecksum : String
  type : ℕ
  network : ℕ
  chainId : ℕ
  deriving DecidableEq, Repr

structure IClientKeyCipherExchangePacket where
  clientKeyCipher : Bytes
  clientAuthCipher : Bytes
  identity : Bytes
  challenge : Bytes
  deriving DecidableEq, Repr

/-- What is sent to the peer, without the cipher keys. -/
inductive ServerPacket where
  | authenticationStatus (success : Bool) (message : String) (challenge : Option Bytes)
  | serverKeyCipherExchange (encryptionEnabled : Bool)
  deriving DecidableEq, Repr

/-- The codes that are used here, and those that other parts of the node may use. -/
inductive DisconnectionCode where
  | BAD_VERSION
  | BAD_IDENTITY
  | AUTH_TIMED_OUT
  | BAD_ENCRYPTION
  | BAD_PACKET
  | BAD_AUTH_CIPHER
  | BAD_PROTOCOL_CHECKSUM
  | BAD_NETWORK
  | BAD_CHAIN_ID
  | BAD_CHALLENGE
  | other (code : ℕ)
  deriving DecidableEq, Repr

/-- Where a handler waits. -/
inductive AuthHandler where
  /-- `await this.verifyNetwork()`. -/
  | verifyingNetwork (packet : IAuthenticationPacket)
  /-- The status packet is being sent. -/
  | sendingStatus
  /-- The signing key was found to be the announced one. -/
  | signatureVerified (packet : IClientKeyCipherExchangePacket)
  /-- The answer was found to be valid. -/
  | challengeVerified (packet : IClientKeyCipherExchangePacket)
  /-- The handshake is being sent. -/
  | sendingHandshake (packet : IClientKeyCipherExchangePacket)
  /-- `sendServerHandshake` is over, or waits for a disconnection. -/
  | handshaken (packet : IClientKeyCipherExchangePacket)
  deriving DecidableEq, Repr

/-- A step that marked the peer authenticated, and whether `disconnectPeer` had been called. -/
structure AuthenticationMark where
  packet : IClientKeyCipherExchangePacket
  disconnected : Bool
  deriving DecidableEq, Repr

/-! ### The manager -/

/-- The networks of the node's own identity. -/
structure OPNetIdentity where
  peerNetwork : ℕ
  peerChainId : ℕ
  deriving DecidableEq, Repr

/-- `verifyChallenge`: challenge, signature and public key; `none` if it throws. -/
structure AuthEnvironment where
  selfIdentity : Option OPNetIdentity
  verifyChallenge : Bytes → Bytes → Bytes → Option Bool

/-- `announced` and `marks` are not in the program: they list the AUTHENTICATION packets that arrived,
and the steps that marked the peer authenticated. -/
structure AuthenticationManager where
  clientVersion : Option String
  clientIndexerMode : Option ℕ
  clientNetwork : Option ℕ
  clientChainId : Option ℕ
  isAuthenticated : Bool
  passVersionCheck : Bool
  timeoutAuth : Bool
  identityChallenge : Option Bytes
  clientIdentity : Option String
  encryptionStarted : Bool
  clientSignaturePublicKey : Option Bytes
  clientPublicKey : Option Bytes
  serverCipherKeyPair : Bool
  badPacketCount : ℕ
  handlers : List AuthHandler
  /-- The calls of `disconnectPeer`. -/
  disconnections : List (DisconnectionCode × String)
  sent : List ServerPacket
  announced : List IAuthenticationPacket
  marks : List AuthenticationMark
  deriving DecidableEq, Repr

namespace AuthenticationManager

open P2PVersion

def init : AuthenticationManager where
  clientVersion := none
  clientIndexerMode := none
  clientNetwork := none
  clientChainId := none
  isAuthenticated := false
  passVersionCheck := false
  timeoutAuth := true
  identityChallenge := none
  clientIdentity := none
  encryptionStarted := false
  clientSignaturePublicKey := none
  clientPublicKey := none
  serverCipherKeyPair := false
  badPacketCount := 0
  handlers := []
  disconnections := []
  sent := []
  announced := []
  marks := []

def disconnectPeer (s : AuthenticationManager) (code : DisconnectionCode) (reason : String) :
    AuthenticationManager :=
  { s with disconnections := s.disconnections ++ [(code, reason)] }

/-- `OPNetPeer.onMessage` catches what a handler throws. -/
def throws (s : AuthenticationManager) : AuthenticationManager :=
  let counted := { s with badPacketCount := s.badPacketCount + 1 }
  if s.badPacketCount + 1 < 5 then counted.disconnectPeer .BAD_PACKET "Bad packet." else counted

def wait (s : AuthenticationManager) (handler : AuthHandler) : AuthenticationManager :=
  { s with handlers := s.handlers ++ [handler] }

def send (s : AuthenticationManager) (packet : ServerPacket) : AuthenticationManager :=
  { s with sent := s.sent ++ [packet] }

/-- The mismatch disconnects, and nothing is returned. -/
def verifyNetwork (s : AuthenticationManager) (identity : OPNetIdentity) : AuthenticationManager :=
  if some identity.peerNetwork ≠ s.clientNetwork then s.disconnectPeer .BAD_NETWORK "Invalid network."
  else if some identity.peerChainId ≠ s.clientChainId then
    s.disconnectPeer .BAD_CHAIN_ID "Invalid chain ID."
  else s

/-- What the handler does with a packet that passed the checks of the version. -/
def takeAuthentication (s : AuthenticationManager) (env : AuthEnvironment)
    (packet : IAuthenticationPacket) : AuthenticationManager :=
  let taken :=
    { s with
      clientVersion := some packet.version
      clientNetwork := some packet.network
      clientIndexerMode := some packet.type
      clientChainId := some packet.chainId }
  match env.selfIdentity with
  | none => taken.throws
  | some identity => (taken.verifyNetwork identity).wait (.verifyingNetwork packet)

def onAuthenticationMessage (s : AuthenticationManager) (env : AuthEnvironment)
    (packet : IAuthenticationPacket) : AuthenticationManager :=
  if s.passVersionCheck then
    s.disconnectPeer .BAD_VERSION "Peer has already passed the version check."
  else if !mayAcceptVersion packet.version then
    s.disconnectPeer .BAD_VERSION "Outdated protocol version."
  else if mayAcceptProtocolChecksum packet.version packet.protocolChecksum then
    s.disconnectPeer .BAD_PROTOCOL_CHECKSUM "Invalid protocol checksum."
  else if packet.clientAuthCipher.length = 0 then
    s.send (.authenticationStatus false "Invalid client authentication cipher." none)
  else if packet.clientAuthCipher.length ≠ 32 then
    s.disconnectPeer .BAD_AUTH_CIPHER "Invalid client authentication cipher. Invalid length."
  else s.takeAuthentication env packet

def createFullAuthentication (s : AuthenticationManager) (challenge : Bytes) : AuthenticationManager :=
  if s.encryptionStarted then s.disconnectPeer .BAD_ENCRYPTION "Encryption already started."
  else
    let generated := { s with serverCipherKeyPair := true }
    if s.identityChallenge.isSome then generated.throws
    else
      let issued := { generated with identityChallenge := some challenge }
      (issued.send (.authenticationStatus true "Pre auth valid." (some challenge))).wait .sendingStatus

/-- What follows `verifyNetwork`. -/
def onNetworkVerified (s : AuthenticationManager) (packet : IAuthenticationPacket)
    (challenge : Bytes) : AuthenticationManager :=
  { s with
    clientSignaturePublicKey := some packet.clientAuthCipher
    passVersionCheck := true }.createFullAuthentication challenge

/-- The length of the identity, and `verifySignaturePublicKey`. -/
def onClientCipherExchangeMessage (s : AuthenticationManager)
    (packet : IClientKeyCipherExchangePacket) : AuthenticationManager :=
  if packet.identity.length ≠ 64 then s.disconnectPeer .BAD_IDENTITY "Invalid peer identity."
  else
    match s.clientSignaturePublicKey with
    | none =>
      s.disconnectPeer .BAD_AUTH_CIPHER
        "Invalid client authentication cipher. Signature public key not found."
    | some key =>
      if key ≠ packet.clientAuthCipher then
        s.disconnectPeer .BAD_AUTH_CIPHER
          "Invalid client authentication cipher. Signature public key mismatch."
      else s.wait (.signatureVerified packet)

def verifyChallenge (s : AuthenticationManager) (env : AuthEnvironment)
    (packet : IClientKeyCipherExchangePacket) : AuthenticationManager :=
  match s.identityChallenge, env.selfIdentity with
  | some challenge, some _ =>
    match env.verifyChallenge challenge packet.challenge packet.clientAuthCipher with
    | none => s.throws
    | some false => s.disconnectPeer .BAD_CHALLENGE "Invalid challenge response."
    | some true => s.wait (.challengeVerified packet)
  | _, _ => s.throws

def sendServerHandshake (s : AuthenticationManager) (packet : IClientKeyCipherExchangePacket) :
    AuthenticationManager :=
  if s.encryptionStarted then
    (s.disconnectPeer .BAD_ENCRYPTION "Encryption already started.").wait (.handshaken packet)
  else if !s.serverCipherKeyPair then
    (s.disconnectPeer .BAD_PACKET "Server handshake failed.").wait (.handshaken packet)
  else (s.send (.serverKeyCipherExchange true)).wait (.sendingHandshake packet)

/-- `isAuthenticated` is set. -/
def mark (s : AuthenticationManager) (packet : IClientKeyCipherExchangePacket) :
    AuthenticationManager :=
  { s with
    isAuthenticated := true
    marks := s.marks ++ [⟨packet, !s.disconnections.isEmpty⟩] }

/-- What a handler does when its wait is over. -/
def goOn (s : AuthenticationManager) (env : AuthEnvironment) (challenge : Bytes) :
    AuthHandler → AuthenticationManager
  | .verifyingNetwork packet => s.onNetworkVerified packet challenge
  | .sendingStatus => { s with timeoutAuth := false }
  | .signatureVerified packet => s.verifyChallenge env packet
  | .challengeVerified packet =>
    { s with
      clientIdentity := some (toHex packet.identity)
      clientPublicKey := some packet.clientKeyCipher }.sendServerHandshake packet
  | .sendingHandshake packet =>
    -- `onAuthenticated` sets `isAuthenticated` as well
    ({ s with encryptionStarted := true }.mark packet).wait (.handshaken packet)
  | .handshaken packet => s.mark packet

end AuthenticationManager

inductive AuthEvent where
  | authentication (packet : IAuthenticationPacket)
  | cipherExchange (packet : IClientKeyCipherExchangePacket)
  /-- A packet that cannot be read, or is not allowed. -/
  | badPacket
  /-- A waiting handler goes on; the challenge is what it draws if it issues one. -/
  | goOn (handler : ℕ) (challenge : Bytes)
  /-- What a handler waits for fails. -/
  | fails (handler : ℕ)
  | timeout
  /-- Another part of the node closes the connection. -/
  | disconnect (code : ℕ) (reason : String)
  deriving DecidableEq, Repr

namespace AuthenticationManager

/-- Without the handler that goes on. -/
def without (s : AuthenticationManager) (handler : ℕ) : AuthenticationManager :=
  { s with handlers := s.handlers.eraseIdx handler }

def step (env : AuthEnvironment) (s : AuthenticationManager) :
    AuthEvent → Option AuthenticationManager
  | .authentication packet =>
    some ({ s with announced := s.announced ++ [packet] }.onAuthenticationMessage env packet)
  | .cipherExchange packet => some (s.onClientCipherExchangeMessage packet)
  | .badPacket => some s.throws
  | .goOn handler challenge =>
    s.handlers[handler]?.map fun waiting => (s.without handler).goOn env challenge waiting
  | .fails handler => s.handlers[handler]?.map fun _ => (s.without handler).throws
  | .timeout =>
    if s.timeoutAuth then some (s.disconnectPeer .AUTH_TIMED_OUT "Authentication timeout.") else none
  | .disconnect code reason => some (s.disconnectPeer (.other code) reason)

end AuthenticationManager

end OpnetNode
