import OpnetNode.AddressMap
import OpnetNode.JsMap
import OpnetNode.Plugins.PluginOpcodeRegistry

/-!
# The WebSocket API

A client connects, shakes hands, and sends requests that are answered in any order, each when its
handler is done. What cannot be sent at once waits in a queue until the socket drains.

* `WebSocketClient`: the state of a client, and what the socket was given.
* `Connection.processMessage`: what `ProtocolHandler` does with a message, up to the `await` of the
  handler; `Connection.settle` is the rest.
* `WebSocketManager.step`: a client connects, a message arrives, a handler is done, a socket drains or
  is closed, a notification goes out, the server shuts down.

The codec, the handlers and the socket are parameters, `socket n` being the answer to the call `n` of
`socket.send`. `socketCalls`, `socketTaken`, `offered` (what an active client was given to send),
`received`, `acceptedAt` (when `startRequest` let a request pass), `pushed` and `givenIds` (of the
subscriptions) are not in the program.

Left out are the metrics, the logs and the address of the client; `broadcast`, which nothing calls; and
`handlePluginOpcodeCrossThread`, which is called only where there is no registry, and `handlePluginOpcode`
only where there is one.
-/

namespace OpnetNode

/-! ### Errors -/

abbrev WebSocketErrorCode := ℕ

namespace WebSocketErrorCode

def MALFORMED_MESSAGE : WebSocketErrorCode := 1
def UNKNOWN_OPCODE : WebSocketErrorCode := 2
def HANDSHAKE_REQUIRED : WebSocketErrorCode := 3
def HANDSHAKE_ALREADY_COMPLETED : WebSocketErrorCode := 4
def UNSUPPORTED_PROTOCOL_VERSION : WebSocketErrorCode := 5
def TOO_MANY_PENDING_REQUESTS : WebSocketErrorCode := 10
def AUTHENTICATION_REQUIRED : WebSocketErrorCode := 1000
def NOT_FOUND : WebSocketErrorCode := 2000
def SUBSCRIPTION_NOT_FOUND : WebSocketErrorCode := 2006
def SUBSCRIPTION_ALREADY_EXISTS : WebSocketErrorCode := 2101
def MAX_SUBSCRIPTIONS_REACHED : WebSocketErrorCode := 2102
def INVALID_PARAMS : WebSocketErrorCode := 3000
def INTERNAL_ERROR : WebSocketErrorCode := 4000
def NOT_IMPLEMENTED : WebSocketErrorCode := 4008

/-- Unknown opcodes and malformed messages are fatal. -/
def isFatalError (code : WebSocketErrorCode) : Bool :=
  code = UNKNOWN_OPCODE || code = MALFORMED_MESSAGE || code = UNSUPPORTED_PROTOCOL_VERSION

def getWebSocketCloseCode (code : WebSocketErrorCode) : ℕ :=
  if code = MALFORMED_MESSAGE || code = UNSUPPORTED_PROTOCOL_VERSION then 1002
  else if AUTHENTICATION_REQUIRED ≤ code && code < NOT_FOUND then 3000
  else if INTERNAL_ERROR ≤ code then 1011
  else 1008

end WebSocketErrorCode

/-- What a handler throws. -/
inductive HandlerError where
  | api (code : WebSocketErrorCode) (message : String)
  | error (message : String)
  /-- Not an `Error`. -/
  | other
  deriving DecidableEq, Repr

/-! ### Opcodes -/

structure OpcodeRegistration where
  opcode : ℕ
  responseOpcode : ℕ
  requiresHandshake : Bool
  deriving DecidableEq, Repr

namespace WebSocketOpcode

def PING : ℕ := 0x00
def HANDSHAKE : ℕ := 0x01
def SUBSCRIBE_BLOCKS : ℕ := 0x70
def SUBSCRIBE_EPOCHS : ℕ := 0x71
def SUBSCRIBE_MEMPOOL : ℕ := 0x72
def UNSUBSCRIBE : ℕ := 0x7f
def ERROR : ℕ := 0x80
def PONG : ℕ := 0x81
def HANDSHAKE_ACK : ℕ := 0x82

/-- `initializeOpcodeRegistrations`. -/
def requestHandlers : List OpcodeRegistration :=
  [⟨PING, PONG, false⟩, ⟨HANDSHAKE, HANDSHAKE_ACK, false⟩,
    -- blocks
    ⟨0x10, 0x90, true⟩, ⟨0x11, 0x91, true⟩, ⟨0x12, 0x91, true⟩, ⟨0x13, 0x91, true⟩, ⟨0x14, 0x92, true⟩,
    ⟨0x15, 0x93, true⟩,
    -- transactions and mempool
    ⟨0x20, 0xa0, true⟩, ⟨0x21, 0xa1, true⟩, ⟨0x22, 0xa2, true⟩, ⟨0x27, 0xa7, true⟩, ⟨0x23, 0xa3, true⟩,
    ⟨0x24, 0xa4, true⟩, ⟨0x25, 0xa5, true⟩, ⟨0x26, 0xa6, true⟩,
    -- addresses, chain, states
    ⟨0x30, 0xb0, true⟩, ⟨0x31, 0xb1, true⟩, ⟨0x32, 0xb2, true⟩, ⟨0x40, 0xc0, true⟩, ⟨0x41, 0xc1, true⟩,
    ⟨0x50, 0xd0, true⟩, ⟨0x51, 0xd1, true⟩, ⟨0x52, 0xd2, true⟩,
    -- epochs
    ⟨0x60, 0xe0, true⟩, ⟨0x61, 0xe0, true⟩, ⟨0x62, 0xe0, true⟩, ⟨0x63, 0xe1, true⟩, ⟨0x64, 0xe2, true⟩,
    ⟨SUBSCRIBE_BLOCKS, 0xf0, true⟩, ⟨SUBSCRIBE_EPOCHS, 0xf0, true⟩, ⟨SUBSCRIBE_MEMPOOL, 0xf0, true⟩,
    ⟨UNSUBSCRIBE, 0xf1, true⟩]

def getRequestRegistration (opcode : ℕ) : Option OpcodeRegistration :=
  requestHandlers.find? fun registration => registration.opcode = opcode

end WebSocketOpcode

/-! ### The client -/

inductive ConnectionState where
  | CONNECTED
  | READY
  | CLOSING
  | CLOSED
  deriving DecidableEq, Repr

structure WebSocketClientConfig where
  maxPendingRequests : ℕ
  maxRequestsPerSecond : ℕ
  maxSubscriptions : ℕ
  deriving DecidableEq, Repr

inductive SubscriptionType where
  | BLOCKS
  | EPOCHS
  | MEMPOOL
  deriving DecidableEq, Repr

/-- What `socket.send` does with a message. -/
inductive SocketAnswer where
  | taken
  /-- `false`: the socket is draining. -/
  | full
  | threw
  deriving DecidableEq, Repr

structure WebSocketClient where
  state : ConnectionState
  protocolVersion : ℕ
  clientName : String
  clientVersion : String
  pendingRequests : ℕ
  messageQueue : List Bytes
  isDraining : Bool
  requestTimestamps : List ℕ
  subscriptions : JsMap ℕ SubscriptionType
  nextSubscriptionId : ℕ
  /-- What `socket.send` was called with. -/
  socketCalls : List Bytes
  socketTaken : List Bytes
  /-- The code that the socket was closed with. -/
  socketClosed : Option ℕ
  offered : List Bytes
  givenIds : List ℕ
  deriving DecidableEq

namespace WebSocketClient

def new : WebSocketClient where
  state := .CONNECTED
  protocolVersion := 0
  clientName := ""
  clientVersion := ""
  pendingRequests := 0
  messageQueue := []
  isDraining := false
  requestTimestamps := []
  subscriptions := JsMap.empty
  nextSubscriptionId := 1
  socketCalls := []
  socketTaken := []
  socketClosed := none
  offered := []
  givenIds := []

def isHandshakeCompleted (s : WebSocketClient) : Bool := s.state = .READY

def isActive (s : WebSocketClient) : Bool := s.state = .CONNECTED || s.state = .READY

/-- The state being `CONNECTED`. -/
def completeHandshake (protocolVersion : ℕ) (clientName clientVersion : String) (s : WebSocketClient) :
    WebSocketClient :=
  { s with protocolVersion, clientName, clientVersion, state := .READY }

/-! #### Requests -/

/-- The timestamps of the last second. -/
def recentTimestamps (now : ℕ) (timestamps : List ℕ) : List ℕ :=
  timestamps.filter fun ts => now < ts + 1000

/-- `none` where the limit is reached, for which the old timestamps are removed as well. -/
def checkRateLimit (config : WebSocketClientConfig) (now : ℕ) (s : WebSocketClient) :
    Bool × WebSocketClient :=
  let recent := recentTimestamps now s.requestTimestamps
  if config.maxRequestsPerSecond ≤ recent.length then (false, { s with requestTimestamps := recent })
  else (true, { s with requestTimestamps := recent ++ [now] })

def startRequest (config : WebSocketClientConfig) (now : ℕ) (s : WebSocketClient) :
    Bool × WebSocketClient :=
  if !s.isActive then (false, s)
  else if config.maxPendingRequests ≤ s.pendingRequests then (false, s)
  else
    let checked := s.checkRateLimit config now
    if checked.1 then (true, { checked.2 with pendingRequests := checked.2.pendingRequests + 1 })
    else (false, checked.2)

def endRequest (s : WebSocketClient) : WebSocketClient :=
  { s with pendingRequests := s.pendingRequests - 1 }

/-! #### Subscriptions -/

def hasSubscription (type : SubscriptionType) (s : WebSocketClient) : Bool :=
  s.subscriptions.vals.any fun t => t = type

/-- The id of the subscription, or `none` where the limit is reached. -/
def addSubscription (config : WebSocketClientConfig) (type : SubscriptionType) (s : WebSocketClient) :
    Option ℕ × WebSocketClient :=
  if config.maxSubscriptions ≤ s.subscriptions.size then (none, s)
  else
    let id := s.nextSubscriptionId
    (some id,
      { s with
        nextSubscriptionId := id + 1
        subscriptions := s.subscriptions.set id type
        givenIds := s.givenIds ++ [id] })

def removeSubscription (id : ℕ) (s : WebSocketClient) : WebSocketClient :=
  { s with subscriptions := s.subscriptions.erase id }

/-! #### Messages -/

variable (socket : ℕ → SocketAnswer)

/-- A call of `socket.send`. -/
def socketSend (data : Bytes) (s : WebSocketClient) : SocketAnswer × WebSocketClient :=
  let answer := socket s.socketCalls.length
  (answer,
    { s with
      socketCalls := s.socketCalls ++ [data]
      socketTaken := if answer = .taken then s.socketTaken ++ [data] else s.socketTaken })

/-- A message that is sent later. -/
def enqueue (data : Bytes) (s : WebSocketClient) : WebSocketClient :=
  { s with messageQueue := s.messageQueue ++ [data], isDraining := true, offered := s.offered ++ [data] }

def send (data : Bytes) (s : WebSocketClient) : WebSocketClient :=
  if !s.isActive then s
  else if s.isDraining then s.enqueue data
  else
    match s.socketSend socket data with
    | (.taken, s) => { s with offered := s.offered ++ [data] }
    | (.full, s) => s.enqueue data
    | (.threw, s) => { s with offered := s.offered ++ [data] }

/-- The loop of `onDrain`, over the queue; a message that cannot be sent is lost. -/
def flush : List Bytes → WebSocketClient → WebSocketClient
  | [], s => { s with messageQueue := [] }
  | data :: rest, s =>
    match s.socketSend socket data with
    | (.taken, s) => flush rest s
    | (.full, s) => { s with messageQueue := data :: rest, isDraining := true }
    | (.threw, s) => flush rest s

def onDrain (s : WebSocketClient) : WebSocketClient :=
  flush socket s.messageQueue { s with isDraining := false }

def byteOf (n : BitVec 32) : UInt8 := ⟨(n &&& 0xff#32).setWidth 8⟩

/-- A request id, little-endian. -/
def requestIdBytes (requestId : BitVec 32) : Bytes :=
  [byteOf requestId, byteOf (requestId.sshiftRight 8), byteOf (requestId.sshiftRight 16),
    byteOf (requestId.sshiftRight 24)]

def sendResponse (opcode : ℕ) (requestId : BitVec 32) (payload : Bytes) (s : WebSocketClient) :
    WebSocketClient :=
  s.send socket (UInt8.ofNat opcode :: requestIdBytes requestId ++ payload)

def close (code : ℕ) (s : WebSocketClient) : WebSocketClient :=
  if s.state = .CLOSED || s.state = .CLOSING then s
  else { s with state := .CLOSED, subscriptions := JsMap.empty, socketClosed := some code }

def markClosed (s : WebSocketClient) : WebSocketClient :=
  { s with state := .CLOSED, subscriptions := JsMap.empty }

end WebSocketClient

/-! ### The protocol -/

structure HandshakeData where
  protocolVersion : ℕ
  clientName : String
  clientVersion : Option String
  deriving DecidableEq, Repr

/-- What the handlers of the subscriptions return. -/
inductive SubscriptionResponse where
  | created (subscriptionId : ℕ) (type : SubscriptionType)
  | unsubscribed (success : Bool)
  deriving DecidableEq, Repr

/-- The codec; where it throws, the result is `none`. `packError` is given the message or takes that of
the code, `unpack` says whether a payload is a request of an opcode, and `packPong` reads the ping. -/
structure WebSocketEnvironment where
  config : WebSocketClientConfig
  MAX_CONNECTIONS : ℕ
  enabled : Bool
  pluginRegistry : Bool
  hasHandler : ℕ → Bool
  unpack : ℕ → Bytes → Bool
  unsubscribeId : Bytes → ℕ
  unpackHandshake : Bytes → Option HandshakeData
  packHandshake : ℕ → Option Bytes
  packPong : Bytes → ℕ → Option Bytes
  packError : BitVec 32 → WebSocketErrorCode → Option String → Option Bytes
  packSubscription : SubscriptionResponse → Except HandlerError Bytes
  packNotification : SubscriptionType → Bytes → ℕ → Option Bytes

/-- A request whose handler is not done; `response` is what it has returned already. -/
structure RunningRequest where
  requestId : BitVec 32
  responseOpcode : ℕ
  response : Option SubscriptionResponse
  deriving DecidableEq, Repr

/-- `registered`: the client is in `clients`. -/
structure Connection where
  client : WebSocketClient
  registered : Bool
  running : List RunningRequest
  received : List Bytes
  acceptedAt : List ℕ
  pushed : List Bytes

def MIN_PROTOCOL_VERSION : ℕ := 1

def MAX_PROTOCOL_VERSION : ℕ := 1

/-- The length of a JavaScript string. -/
def utf16Length (text : String) : ℕ :=
  (text.toList.map fun c => if c.val < 0x10000 then 1 else 2).sum

namespace Connection

open WebSocketOpcode WebSocketErrorCode WebSocketClient

def new : Connection where
  client := .new
  registered := true
  running := []
  received := []
  acceptedAt := []
  pushed := []

variable (env : WebSocketEnvironment) (socket : ℕ → SocketAnswer)

/-- Replace the client by what a method makes of it. -/
def onClient (s : Connection) (f : WebSocketClient → WebSocketClient) : Connection :=
  { s with client := f s.client }

def send (data : Bytes) (s : Connection) : Connection := s.onClient (WebSocketClient.send socket data)

def close (code : ℕ) (s : Connection) : Connection := s.onClient (WebSocketClient.close code)

def sendError (requestId : BitVec 32) (code : WebSocketErrorCode) (message : Option String)
    (s : Connection) : Connection :=
  match env.packError requestId code message with
  | none => s
  | some payload => s.onClient (sendResponse socket ERROR requestId payload)

def closeWithError (code : WebSocketErrorCode) (s : Connection) : Connection :=
  if s.client.state = .CLOSED then s
  else (s.sendError env socket 0 code none).close (getWebSocketCloseCode code)

/-- Refused, and the connection is closed. -/
def closeAfter (code : WebSocketErrorCode) (message : Option String) (s : Connection) : Connection :=
  (s.sendError env socket 0 code message).close 1002

/-! #### Requests -/

def endRequest (s : Connection) : Connection := s.onClient WebSocketClient.endRequest

/-- What is thrown, by its code and its message. -/
def errorOf : HandlerError → WebSocketErrorCode × String
  | .api code message => (code, message)
  | .error message => (INTERNAL_ERROR, message)
  | .other => (INTERNAL_ERROR, "Unknown error")

def handleError (requestId : BitVec 32) (error : HandlerError) (s : Connection) : Connection :=
  let failed := s.sendError env socket requestId (errorOf error).1 (some (errorOf error).2)
  if isFatalError (errorOf error).1 then failed.close 1008 else failed

/-- The first four bytes of a payload, little-endian. -/
def requestIdOf (b₀ b₁ b₂ b₃ : UInt8) : BitVec 32 :=
  b₀.toBitVec.setWidth 32 ||| b₁.toBitVec.setWidth 32 <<< 8 ||| b₂.toBitVec.setWidth 32 <<< 16 |||
    b₃.toBitVec.setWidth 32 <<< 24

/-- `startRequest`, or the error. -/
def startRequest (now : ℕ) (requestId : BitVec 32) (s : Connection) (start : Connection → Connection) :
    Connection :=
  let started := s.client.startRequest env.config now
  if started.1 then start { s with client := started.2, acceptedAt := s.acceptedAt ++ [now] }
  else { s with client := started.2 }.sendError env socket requestId TOO_MANY_PENDING_REQUESTS none

/-- The handler is awaited. -/
def await (requestId : BitVec 32) (responseOpcode : ℕ) (response : Option SubscriptionResponse)
    (s : Connection) : Connection :=
  { s with running := s.running ++ [⟨requestId, responseOpcode, response⟩] }

/-- The handler has thrown before it returned. -/
def fail (requestId : BitVec 32) (error : HandlerError) (s : Connection) : Connection :=
  (s.handleError env socket requestId error).endRequest

/-- The handlers of `SUBSCRIBE_BLOCKS`, `SUBSCRIBE_EPOCHS` and `SUBSCRIBE_MEMPOOL`. -/
def subscribe (type : SubscriptionType) (requestId : BitVec 32) (responseOpcode : ℕ) (s : Connection) :
    Connection :=
  if !s.registered then s.fail env socket requestId (.api INTERNAL_ERROR "")
  else if s.client.hasSubscription type then
    s.fail env socket requestId (.api SUBSCRIPTION_ALREADY_EXISTS "")
  else
    match s.client.addSubscription env.config type with
    | (none, _) => s.fail env socket requestId (.api MAX_SUBSCRIPTIONS_REACHED "")
    | (some id, client) => { s with client }.await requestId responseOpcode (some (.created id type))

def unsubscribe (subscriptionId : ℕ) (requestId : BitVec 32) (responseOpcode : ℕ) (s : Connection) :
    Connection :=
  if !s.registered then s.fail env socket requestId (.api INTERNAL_ERROR "")
  else
    match s.client.subscriptions.get subscriptionId with
    | none => s.fail env socket requestId (.api SUBSCRIPTION_NOT_FOUND "")
    | some _ =>
      (s.onClient (removeSubscription subscriptionId)).await requestId responseOpcode
        (some (.unsubscribed true))

/-- The handler of an opcode runs up to its first `await`. -/
def runHandler (registration : OpcodeRegistration) (payload : Bytes) (requestId : BitVec 32)
    (s : Connection) : Connection :=
  let responseOpcode := registration.responseOpcode
  if !env.hasHandler registration.opcode then
    (s.sendError env socket requestId NOT_IMPLEMENTED none).endRequest
  else if registration.opcode = SUBSCRIBE_BLOCKS then
    s.subscribe env socket .BLOCKS requestId responseOpcode
  else if registration.opcode = SUBSCRIBE_EPOCHS then
    s.subscribe env socket .EPOCHS requestId responseOpcode
  else if registration.opcode = SUBSCRIBE_MEMPOOL then
    s.subscribe env socket .MEMPOOL requestId responseOpcode
  else if registration.opcode = UNSUBSCRIBE then
    s.unsubscribe env socket (env.unsubscribeId payload) requestId responseOpcode
  else s.await requestId responseOpcode none

/-- The rest of a request, its id and its payload apart. -/
def handleRequest (now : ℕ) (decodes : Bytes → Bool) (run : BitVec 32 → Bytes → Connection → Connection)
    (s : Connection) : Bytes → Connection
  | b₀ :: b₁ :: b₂ :: b₃ :: protobufPayload =>
    let requestId := requestIdOf b₀ b₁ b₂ b₃
    if !decodes protobufPayload then
      s.sendError env socket requestId MALFORMED_MESSAGE (some "Failed to deserialize request")
    else s.startRequest env socket now requestId (run requestId protobufPayload)
  | _ => s.sendError env socket 0 MALFORMED_MESSAGE none

def handlePing (now : ℕ) (s : Connection) : Bytes → Connection
  | b₀ :: b₁ :: b₂ :: b₃ :: protobufPayload =>
    match env.packPong protobufPayload now with
    | none => s
    | some packedPayload =>
      s.send socket (UInt8.ofNat PONG :: [b₀, b₁, b₂, b₃] ++ packedPayload)
  | _ => s

/-- The data of a handshake is valid, or why not. -/
def validateHandshake (data : HandshakeData) : Option (WebSocketErrorCode × Option String) :=
  if data.protocolVersion < MIN_PROTOCOL_VERSION || MAX_PROTOCOL_VERSION < data.protocolVersion then
    some (UNSUPPORTED_PROTOCOL_VERSION, none)
  else if data.clientName = "" || 64 < utf16Length data.clientName then
    some (INVALID_PARAMS, some "Invalid client name")
  else none

def handleHandshake (currentBlockHeight : ℕ) (s : Connection) : Bytes → Connection
  | b₀ :: b₁ :: b₂ :: b₃ :: protobufPayload =>
    if s.client.isHandshakeCompleted then
      s.sendError env socket 0 HANDSHAKE_ALREADY_COMPLETED none
    else
      match env.unpackHandshake protobufPayload with
      | none => s.closeWithError env socket MALFORMED_MESSAGE
      | some data =>
        match validateHandshake data with
        | some (code, message) => s.closeAfter env socket code message
        | none =>
          let shaken := s.onClient (completeHandshake data.protocolVersion data.clientName
            (data.clientVersion.getD "0.0.0"))
          match env.packHandshake currentBlockHeight with
          | none => shaken.closeWithError env socket MALFORMED_MESSAGE
          | some packedPayload =>
            shaken.send socket (UInt8.ofNat HANDSHAKE_ACK :: [b₀, b₁, b₂, b₃] ++ packedPayload)
  | _ =>
    if s.client.isHandshakeCompleted then
      s.sendError env socket 0 HANDSHAKE_ALREADY_COMPLETED none
    else s.closeWithError env socket MALFORMED_MESSAGE

/-- With a registry; `handler` is the response opcode of the handler that it has for the opcode, and
whether it decodes a request. -/
def handlePluginOpcode (now : ℕ) (handler : Option (ℕ × Bool)) (payload : Bytes) (s : Connection) :
    Connection :=
  if !s.client.isHandshakeCompleted then s.closeAfter env socket HANDSHAKE_REQUIRED none
  else
    match handler with
    | none => s.closeWithError env socket UNKNOWN_OPCODE
    | some (responseOpcode, decodes) =>
      s.handleRequest env socket now (fun _ => decodes)
        (fun requestId _ => await requestId responseOpcode none) payload

def processMessage (now currentBlockHeight : ℕ) (handler : Option (ℕ × Bool)) (s : Connection) :
    Bytes → Connection
  | [] => s.closeWithError env socket MALFORMED_MESSAGE
  | opcode :: payload =>
    if env.pluginRegistry && PluginOpcodeRegistry.isPluginOpcode opcode.toNat then
      s.handlePluginOpcode env socket now handler payload
    else
      match getRequestRegistration opcode.toNat with
      | none => s.closeWithError env socket UNKNOWN_OPCODE
      | some registration =>
        if registration.requiresHandshake && !s.client.isHandshakeCompleted then
          s.closeAfter env socket HANDSHAKE_REQUIRED none
        else if opcode.toNat = PING then s.handlePing env socket now payload
        else if opcode.toNat = HANDSHAKE then s.handleHandshake env socket currentBlockHeight payload
        else
          s.handleRequest env socket now (env.unpack registration.opcode)
            (fun requestId protobufPayload =>
              runHandler env socket registration protobufPayload requestId) payload

def onMessage (now currentBlockHeight : ℕ) (handler : Option (ℕ × Bool)) (message : Bytes)
    (s : Connection) : Connection :=
  if !s.client.isActive then s
  else
    { s with received := s.received ++ [message] }.processMessage env socket now currentBlockHeight
      handler message

/-- What `await` gives: the payload that is packed, or what was thrown. -/
def answerOf (request : RunningRequest) (answer : Except HandlerError Bytes) :
    Except HandlerError Bytes :=
  match request.response with
  | some response => env.packSubscription response
  | none => answer

/-- A handler is done. -/
def settle (request : RunningRequest) (answer : Except HandlerError Bytes) (s : Connection) :
    Connection :=
  let answered :=
    match answerOf env request answer with
    | .ok payload => s.onClient (sendResponse socket request.responseOpcode request.requestId payload)
    | .error error => s.handleError env socket request.requestId error
  { answered with running := s.running.erase request }.endRequest

/-! #### Notifications -/

/-- A notification for the subscription `id`, if it is of the type. -/
def notifySubscription (type : SubscriptionType) (content : Bytes) (s : Connection)
    (subscription : ℕ × SubscriptionType) : Connection :=
  if subscription.2 = type then
    match env.packNotification type content subscription.1 with
    | none => s
    | some packed => { s with pushed := s.pushed ++ [packed] }.send socket packed
  else s

/-- `onBlockChange`, `onEpochFinalized` and `onMempoolTransaction`, for one client. -/
def notify (type : SubscriptionType) (content : Bytes) (s : Connection) : Connection :=
  if s.registered && s.client.isHandshakeCompleted then
    s.client.subscriptions.entries.foldl (notifySubscription env socket type content) s
  else s

end Connection

/-! ### The manager -/

structure WebSocketManager where
  connections : List Connection
  currentBlockHeight : ℕ
  /-- `Date.now()`. -/
  now : ℕ

inductive WebSocketEvent where
  | clock (now : ℕ)
  | connection
  /-- The handler that the plugin registry has for the opcode, if it is a plugin's. -/
  | message (client : ℕ) (message : Bytes) (handler : Option (ℕ × Bool))
  | settled (client : ℕ) (request : RunningRequest) (answer : Except HandlerError Bytes)
  | drain (client : ℕ)
  | closed (client : ℕ)
  | blockChange (blockHeight : ℕ) (content : Bytes)
  | epochFinalized (content : Bytes)
  | mempoolTransaction (content : Bytes)
  | shutdown
  deriving DecidableEq

namespace WebSocketManager

open Connection

def start : WebSocketManager := ⟨[], 0, 0⟩

/-- `clients`, by their connections. -/
def clients (s : WebSocketManager) : List Connection := s.connections.filter Connection.registered

/-- One connection takes a step. -/
def onConnectionOf (s : WebSocketManager) (client : ℕ) (f : Connection → Option Connection) :
    Option WebSocketManager :=
  (s.connections[client]?.bind f).map fun connection =>
    { s with connections := s.connections.set client connection }

def notifyAll (env : WebSocketEnvironment) (socket : ℕ → ℕ → SocketAnswer) (type : SubscriptionType)
    (content : Bytes) (s : WebSocketManager) : WebSocketManager :=
  if !env.enabled then s
  else
    { s with
      connections := s.connections.mapIdx fun i connection =>
        connection.notify env (socket i) type content }

/-- `socket i` is the socket of the connection `i`. -/
def step (env : WebSocketEnvironment) (socket : ℕ → ℕ → SocketAnswer) (s : WebSocketManager) :
    WebSocketEvent → Option WebSocketManager
  | .clock now => some { s with now }
  | .connection =>
    if !env.enabled || env.MAX_CONNECTIONS ≤ s.clients.length then some s
    else some { s with connections := s.connections ++ [.new] }
  | .message client message handler =>
    s.onConnectionOf client fun connection =>
      some (connection.onMessage env (socket client) s.now s.currentBlockHeight handler message)
  | .settled client request answer =>
    s.onConnectionOf client fun connection =>
      if request ∈ connection.running then some (connection.settle env (socket client) request answer)
      else none
  | .drain client =>
    s.onConnectionOf client fun connection =>
      some (connection.onClient (WebSocketClient.onDrain (socket client)))
  | .closed client =>
    s.onConnectionOf client fun connection =>
      some { connection.onClient WebSocketClient.markClosed with registered := false }
  | .blockChange blockHeight content =>
    some ({ s with currentBlockHeight := blockHeight }.notifyAll env socket .BLOCKS content)
  | .epochFinalized content => some (s.notifyAll env socket .EPOCHS content)
  | .mempoolTransaction content => some (s.notifyAll env socket .MEMPOOL content)
  | .shutdown =>
    some
      { s with
        connections := s.connections.map fun connection =>
          if connection.registered then { connection.close 1001 with registered := false }
          else connection }

end WebSocketManager

end OpnetNode
