import Mathlib.Order.WithBot
import OpnetNode.JsMap
import OpnetNode.Transition

/-!
# The blacklist of peers and addresses

`BlacklistManager` keeps its entries in two maps and writes each change to the datastore as well. A
write is awaited or left to itself; either way it lands later, or fails, and the writes in flight land
in any order. A process that restarts has what it reads back from the datastore.

* `blacklistPeer`, `blacklistIP`, `shouldDenyConnection`, `cleanupExpiredEntries`: the methods, up to
  their first `await`.
* `DatastoreWrite`: a write in flight, with the loop over the addresses that awaits it.
* `BlacklistManager.step`: a method is called, a write settles, time passes, or the process restarts.

Times are in milliseconds. An entry comes back from the datastore as it was written.
-/

namespace OpnetNode

/-! ### Addresses -/

/-- A component of an address: `/name` or `/name/value`. -/
structure ComponentLike where
  name : String
  value : Option String
  deriving DecidableEq, Repr

structure Multiaddr where
  components : List ComponentLike
  /-- `toString()`. -/
  text : String
  deriving DecidableEq, Repr

namespace Multiaddr

def IP_HOST_PROTOCOLS : List String := ["ip4", "ip6"]

def DNS_HOST_PROTOCOLS : List String := ["dns", "dns4", "dns6", "dnsaddr"]

/-- A text that is present and not empty. -/
def nonempty : Option String → Option String
  | none => none
  | some text => if text = "" then none else some text

/-- The IP address or hostname: the first component that is one decides. -/
def extractAddressHost (addr : Multiaddr) : Option String :=
  match addr.components.find? fun component =>
      component.name ∈ IP_HOST_PROTOCOLS || component.name ∈ DNS_HOST_PROTOCOLS with
  | some component => nonempty component.value
  | none => none

end Multiaddr

/-! ### Entries -/

inductive BlacklistManager.DisconnectionCode where
  | RECONNECT
  | BAD_PROTOCOL
  | BAD_VERSION
  | BAD_BEHAVIOR
  | BAD_IDENTITY
  | BAD_CHECKSUM
  | BAD_SIGNATURE
  | AUTH_TIMED_OUT
  | BAD_ENCRYPTION
  | BAD_PACKET
  | BAD_PEER
  | BAD_AUTH_CIPHER
  | UNABLE_TO_AUTHENTICATE
  | BAD_PROTOCOL_CHECKSUM
  | BAD_NETWORK
  | BAD_CHAIN_ID
  | BAD_CHALLENGE
  | FLOOD
  | INVALID_CHAIN
  | UNREACHABLE
  | EXPECTED
  deriving DecidableEq, Repr

structure BlacklistMetadata where
  lastSeenAddress : Option String
  violations : Option (List BlacklistManager.DisconnectionCode)
  deriving DecidableEq, Repr

structure BlacklistEntry where
  peerId : Option String
  ipAddress : Option String
  reason : BlacklistManager.DisconnectionCode
  timestamp : ℕ
  permanent : Bool
  expiresAt : Option ℕ
  attempts : ℕ
  metadata : Option BlacklistMetadata
  deriving DecidableEq, Repr

namespace BlacklistEntry

/-- 24 hours. -/
def DEFAULT_EXPIRY : ℕ := 24 * 60 * 60 * 1000

def PERMANENT_REASONS : List BlacklistManager.DisconnectionCode :=
  [.BAD_CHECKSUM, .BAD_SIGNATURE, .BAD_BEHAVIOR, .INVALID_CHAIN]

/-- `permanent ?? PERMANENT_REASONS.includes(reason)`. -/
def isPermanent (reason : BlacklistManager.DisconnectionCode) (permanent : Option Bool) : Bool :=
  permanent.getD (reason ∈ PERMANENT_REASONS)

/-- The check wherever an entry is looked up. -/
def isExpired (now : ℕ) (entry : BlacklistEntry) : Bool :=
  !entry.permanent && match entry.expiresAt with
    | some expiresAt => decide (expiresAt ≠ 0) && decide (expiresAt < now)
    | none => false

def isLoaded (now : ℕ) (entry : BlacklistEntry) : Bool :=
  entry.permanent || match entry.expiresAt with
    | some expiresAt => decide (expiresAt = 0) || decide (now < expiresAt)
    | none => true

end BlacklistEntry

/-- What is blacklisted, with the part of its datastore key that follows the prefix. -/
inductive BlacklistKey where
  | peer (peerId : String)
  | ip (ip : String)
  deriving DecidableEq, Repr

/-- The loop of a `blacklistPeer` over the addresses that are left. -/
structure AddressLoop where
  reason : BlacklistManager.DisconnectionCode
  permanent : Option Bool
  addresses : List Multiaddr
  deriving DecidableEq, Repr

/-- A write in flight: of an entry, or of its removal. -/
structure DatastoreWrite where
  key : BlacklistKey
  entry : Option BlacklistEntry
  /-- The loop that awaits the write. -/
  next : Option AddressLoop
  deriving DecidableEq, Repr

structure BlacklistManager where
  /-- `Date.now()`. -/
  now : ℕ
  peerBlacklist : JsMap String BlacklistEntry
  ipBlacklist : JsMap String BlacklistEntry
  datastore : Option (JsMap BlacklistKey BlacklistEntry)
  writes : List DatastoreWrite
  deriving DecidableEq

namespace BlacklistManager

open BlacklistEntry (DEFAULT_EXPIRY isPermanent)
open Multiaddr (extractAddressHost nonempty)

def initial (now : ℕ) : BlacklistManager := ⟨now, .empty, .empty, some .empty, []⟩

/-! ### The two maps -/

def get (s : BlacklistManager) : BlacklistKey → Option BlacklistEntry
  | .peer peerId => s.peerBlacklist.get peerId
  | .ip ip => s.ipBlacklist.get ip

def set (key : BlacklistKey) (entry : BlacklistEntry) (s : BlacklistManager) : BlacklistManager :=
  match key with
  | .peer peerId => { s with peerBlacklist := s.peerBlacklist.set peerId entry }
  | .ip ip => { s with ipBlacklist := s.ipBlacklist.set ip entry }

def delete (key : BlacklistKey) (s : BlacklistManager) : BlacklistManager :=
  match key with
  | .peer peerId => { s with peerBlacklist := s.peerBlacklist.erase peerId }
  | .ip ip => { s with ipBlacklist := s.ipBlacklist.erase ip }

/-- The entries of the two maps. -/
def entries (s : BlacklistManager) : List (BlacklistKey × BlacklistEntry) :=
  (s.peerBlacklist.entries.map fun entry => (.peer entry.1, entry.2))
    ++ s.ipBlacklist.entries.map fun entry => (.ip entry.1, entry.2)

/-- The entry the datastore has. -/
def stored (s : BlacklistManager) (key : BlacklistKey) : Option BlacklistEntry :=
  s.datastore.bind fun datastore => datastore.get key

def persistEntry (key : BlacklistKey) (entry : BlacklistEntry) (next : Option AddressLoop)
    (s : BlacklistManager) : BlacklistManager :=
  { s with writes := s.writes ++ [⟨key, some entry, next⟩] }

def removeEntry (key : BlacklistKey) (s : BlacklistManager) : BlacklistManager :=
  { s with writes := s.writes ++ [⟨key, none, none⟩] }

/-! ### Blacklisting -/

def blacklistIP (ip : String) (reason : DisconnectionCode) (permanent : Option Bool)
    (next : Option AddressLoop) (s : BlacklistManager) : BlacklistManager :=
  let isPermanent := isPermanent reason permanent
  let existingEntry := s.ipBlacklist.get ip
  let entry : BlacklistEntry :=
    { peerId := none
      ipAddress := some ip
      reason
      timestamp := s.now
      permanent := isPermanent
      expiresAt := if isPermanent then none else some (s.now + DEFAULT_EXPIRY)
      attempts := match existingEntry with
        | some existing => existing.attempts + 1
        | none => 1
      metadata := none }
  (s.set (.ip ip) entry).persistEntry (.ip ip) entry next

/-- The loop over the addresses, up to its next `await`. -/
def blacklistAddresses (reason : DisconnectionCode) (permanent : Option Bool) :
    List Multiaddr → BlacklistManager → BlacklistManager
  | [], s => s
  | addr :: addresses, s =>
    match extractAddressHost addr with
    | some ip => s.blacklistIP ip reason permanent (some ⟨reason, permanent, addresses⟩)
    | none => blacklistAddresses reason permanent addresses s

def blacklistPeer (peerId : String) (reason : DisconnectionCode)
    (addresses : Option (List Multiaddr)) (permanent : Option Bool) (s : BlacklistManager) :
    BlacklistManager :=
  let existingEntry := s.peerBlacklist.get peerId
  let isPermanent := isPermanent reason permanent
  let entry : BlacklistEntry :=
    { peerId := some peerId
      ipAddress := none
      reason
      timestamp := s.now
      permanent := isPermanent
      expiresAt := if isPermanent then none else some (s.now + DEFAULT_EXPIRY)
      attempts := match existingEntry with
        | some existing => existing.attempts + 1
        | none => 1
      metadata := some
        { lastSeenAddress := (addresses.bind List.head?).map Multiaddr.text
          violations := match (existingEntry.bind BlacklistEntry.metadata).bind BlacklistMetadata.violations with
            | some violations => some (violations ++ [reason])
            | none => some [reason] } }
  (s.set (.peer peerId) entry).persistEntry (.peer peerId) entry
    (addresses.map fun addresses => ⟨reason, permanent, addresses⟩)

/-! ### The checks -/

/-- `isPeerBlacklisted` and `isIPBlacklisted`: an expired entry is removed. -/
def isBlacklisted (key : BlacklistKey) (s : BlacklistManager) : Bool × BlacklistManager :=
  match s.get key with
  | none => (false, s)
  | some entry =>
    if entry.isExpired s.now then (false, (s.delete key).removeEntry key) else (true, s)

def isPeerBlacklisted (peerId : String) (s : BlacklistManager) : Bool × BlacklistManager :=
  s.isBlacklisted (.peer peerId)

def isIPBlacklisted (ip : String) (s : BlacklistManager) : Bool × BlacklistManager :=
  s.isBlacklisted (.ip ip)

/-- `shouldDenyConnection`: its answer, and the state at its first `await`. -/
def shouldDenyConnection (peerId : String) (multiaddr : Option Multiaddr) (s : BlacklistManager) :
    Bool × BlacklistManager :=
  let peer := s.isPeerBlacklisted peerId
  if peer.1 then
    match peer.2.get (.peer peerId) with
    | some entry =>
      if 3 < entry.attempts then
        -- the expiry stays
        let upgraded := { entry with permanent := true }
        (true, (peer.2.set (.peer peerId) upgraded).persistEntry (.peer peerId) upgraded none)
      else (true, peer.2)
    | none => (true, peer.2)
  else
    match multiaddr.bind extractAddressHost with
    | some ip => peer.2.isIPBlacklisted ip
    | none => (false, peer.2)

/-- `whitelistPeer` and `whitelistIP`. -/
def whitelist (key : BlacklistKey) (s : BlacklistManager) : BlacklistManager :=
  if (s.get key).isSome then (s.delete key).removeEntry key else s

def cleanupExpiredEntries (s : BlacklistManager) : BlacklistManager :=
  (s.entries.filter fun entry => entry.2.isExpired s.now).foldl
    (fun s entry => (s.delete entry.1).removeEntry entry.1) s

/-! ### The datastore -/

/-- One pair of a query; the values of `unread` were not read, or could not be parsed. -/
def loadEntry (unread : List BlacklistKey) (s : BlacklistManager)
    (pair : BlacklistKey × BlacklistEntry) : BlacklistManager :=
  let entry := pair.2
  if pair.1 ∈ unread then s
  else
    match pair.1 with
    | .peer _ =>
      match nonempty entry.peerId with
      | some peerId => if entry.isLoaded s.now then s.set (.peer peerId) entry else s
      | none => s
    | .ip _ =>
      match nonempty entry.ipAddress with
      | some ip => if entry.isLoaded s.now then s.set (.ip ip) entry else s
      | none => s

def loadBlacklistFromDatastore (unread : List BlacklistKey) (s : BlacklistManager) :
    BlacklistManager :=
  match s.datastore with
  | none => s
  | some datastore => datastore.entries.foldl (loadEntry unread) s

/-- The process starts again. -/
def restart (unread : List BlacklistKey) (s : BlacklistManager) : BlacklistManager :=
  loadBlacklistFromDatastore unread
    { s with peerBlacklist := .empty, ipBlacklist := .empty, writes := [] }

/-- A write in flight lands or fails, and what awaits it goes on. -/
def settle (i : ℕ) (write : DatastoreWrite) (landed : Bool) (s : BlacklistManager) :
    BlacklistManager :=
  let apply (datastore : JsMap BlacklistKey BlacklistEntry) :=
    match write.entry with
    | some entry => datastore.set write.key entry
    | none => datastore.erase write.key
  let settled := { s with
    datastore := if landed then s.datastore.map apply else s.datastore
    writes := s.writes.eraseIdx i }
  match write.next with
  | some loop => settled.blacklistAddresses loop.reason loop.permanent loop.addresses
  | none => settled

/-! ### The events -/

inductive BlacklistEvent where
  | timePasses (ms : ℕ)
  | blacklistPeer (peerId : String) (reason : DisconnectionCode)
      (addresses : Option (List Multiaddr)) (permanent : Option Bool)
  | blacklistIP (ip : String) (reason : DisconnectionCode) (permanent : Option Bool)
  /-- `isPeerBlacklisted`, `isIPBlacklisted` or `isAddressBlacklisted`. -/
  | isBlacklisted (key : BlacklistKey)
  | shouldDenyConnection (peerId : String) (multiaddr : Option Multiaddr)
  | whitelist (key : BlacklistKey)
  | cleanupExpiredEntries
  /-- The `i`-th write in flight lands or fails. -/
  | writeSettled (i : ℕ) (landed : Bool)
  | restart (unread : List BlacklistKey)
  deriving DecidableEq, Repr

def step (s : BlacklistManager) : BlacklistEvent → Option BlacklistManager
  | .timePasses ms => some { s with now := s.now + ms }
  | .blacklistPeer peerId reason addresses permanent =>
    some (s.blacklistPeer peerId reason addresses permanent)
  | .blacklistIP ip reason permanent => some (s.blacklistIP ip reason permanent none)
  | .isBlacklisted key => some (s.isBlacklisted key).2
  | .shouldDenyConnection peerId multiaddr => some (s.shouldDenyConnection peerId multiaddr).2
  | .whitelist key => some (s.whitelist key)
  | .cleanupExpiredEntries => some s.cleanupExpiredEntries
  | .writeSettled i landed => s.writes[i]?.map fun write => s.settle i write landed
  | .restart unread => some (s.restart unread)

end BlacklistManager

end OpnetNode
