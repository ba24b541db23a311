import OnionRoute.GatewayMultihop.Messages
import OnionRoute.GatewayProtocol.Negotiation
import OnionRoute.Library.Process

/-! The handshake of an entry and an exit. The hash, the entropy source and the clocks are inputs;
times are in nanoseconds. -/

namespace OnionRoute.GatewayMultihop

open Library
open GatewayProtocol (Block FlowController utf8Bytes absoluteMaxFrameSize maxConnectionWindow
  maxStreamWindow)

def maxServiceId : ℕ := 128
def nonceSize : ℕ := 32
def connectionIdSize : ℕ := 16
def maxClockSkew : ℕ := 60 * nanosPerSecond
def maxReplayEntries : ℕ := 16384
def defaultReplayTtl : ℕ := 10 * 60 * nanosPerSecond
def maxLeafLifetime : ℕ := 24 * 60 * 60 * nanosPerSecond

inductive GatewayRole
  | entry
  | exit
  deriving DecidableEq

inductive IdentityPurpose
  | interGatewayDataPlane
  | exitTerminal
  | management
  deriving DecidableEq

def WireRole.entry : Int32 := 1
def WireRole.exit : Int32 := 2

structure PeerIdentity where
  serviceId : String
  role : GatewayRole
  purpose : IdentityPurpose
  validFrom : ℤ
  validUntil : ℤ
  deriving DecidableEq

def serviceIdWellFormed (value : String) : Bool :=
  -- the bytes `-`, `_`, `.` and `:`
  value.utf8ByteSize ≠ 0 ∧ value.utf8ByteSize ≤ maxServiceId ∧
    (utf8Bytes value).all fun byte =>
      isAsciiAlphanumeric byte ∨ byte ∈ [0x2d, 0x5f, 0x2e, 0x3a]

def PeerIdentity.validate (identity : PeerIdentity) (now : ℤ) : Result Unit :=
  if ¬ serviceIdWellFormed identity.serviceId ∨ identity.validFrom > now ∨
      identity.validUntil ≤ now ∨ identity.validUntil < identity.validFrom ∨
      identity.validUntil - identity.validFrom > maxLeafLifetime then
    throw .invalidIdentity
  else pure ()

structure ProtocolLimits where
  maximumFrameSize : ℕ
  maximumConcurrentSessions : ℕ
  initialConnectionWindow : UInt32
  initialSessionWindow : UInt32
  handshakeTimeout : ℕ
  maximumSessionTtl : ℕ
  deriving DecidableEq

namespace ProtocolLimits

def default : ProtocolLimits where
  maximumFrameSize := absoluteMaxFrameSize
  maximumConcurrentSessions := 512
  initialConnectionWindow := 4 * 1024 * 1024
  initialSessionWindow := 256 * 1024
  handshakeTimeout := 10 * nanosPerSecond
  maximumSessionTtl := 60 * 60 * nanosPerSecond

def validate (limits : ProtocolLimits) : Result Unit :=
  if limits.maximumFrameSize = 0 ∨ limits.maximumFrameSize > absoluteMaxFrameSize ∨
      limits.maximumConcurrentSessions = 0 ∨ limits.maximumConcurrentSessions > 4096 ∨
      limits.initialConnectionWindow = 0 ∨
      limits.initialConnectionWindow.toNat > maxConnectionWindow ∨
      limits.initialSessionWindow = 0 ∨ limits.initialSessionWindow.toNat > maxStreamWindow ∨
      limits.handshakeTimeout = 0 ∨ limits.maximumSessionTtl = 0 ∨
      limits.maximumSessionTtl > 24 * 60 * 60 * nanosPerSecond then
    throw .invalidConfiguration
  else pure ()

end ProtocolLimits

structure HandshakeConfig where
  minimumVersion : ProtocolVersion
  maximumVersion : ProtocolVersion
  limits : ProtocolLimits
  deriving DecidableEq

def HandshakeConfig.validate (config : HandshakeConfig) : Result Unit := do
  config.limits.validate
  if config.minimumVersion.major = 0 ∨
      config.minimumVersion.major ≠ config.maximumVersion.major ∨
      config.minimumVersion > config.maximumVersion then
    throw .invalidConfiguration

def validateHandshakeIdentity (identity : PeerIdentity) (role : GatewayRole) : Result Unit :=
  if identity.role ≠ role ∨ identity.purpose ≠ .interGatewayDataPlane then throw .wrongRole
  else pure ()

def validateServiceId (value : String) : Result Unit :=
  if ¬ serviceIdWellFormed value then throw .protocolViolation else pure ()

def exactly (n : ℕ) (bytes : Bytes) : Result (Block n) :=
  if h : bytes.length = n then pure ⟨bytes, h⟩ else throw .protocolViolation

def okOr {α : Type} (e : ErrorCode) : Option α → Result α
  | some a => pure a
  | none => throw e

lemma okOr_eq_ok {α : Type} {e : ErrorCode} {value : Option α} {a : α} :
    okOr e value = .ok a ↔ value = some a := by
  cases value with
  | none => simp [okOr, throw_eq_ok]
  | some b => simp [okOr, pure_eq_ok]

section Versions

def versionFromWire (version : WireVersion) : Result ProtocolVersion :=
  if version.major.toNat < 2 ^ 16 ∧ version.minor.toNat < 2 ^ 16 then
    pure ⟨version.major.toUInt16, version.minor.toUInt16⟩
  else throw .protocolViolation

def selectVersion (hello : ClientHello) (config : HandshakeConfig) : Result ProtocolVersion := do
  let minimum ← versionFromWire (← okOr .protocolViolation hello.minimumVersion)
  let maximum ← versionFromWire (← okOr .protocolViolation hello.maximumVersion)
  if minimum.major ≠ maximum.major ∨ minimum.major ≠ config.minimumVersion.major ∨
      minimum > maximum then
    throw .protocolIncompatible
  let lower := max minimum config.minimumVersion
  let upper := min maximum config.maximumVersion
  if lower > upper then throw .protocolIncompatible
  pure upper

end Versions

section Hellos

def clockSkew (wall : ℤ) (unixSeconds : Int64) : ℕ :=
  (wall - unixSeconds.toInt * nanosPerSecond).natAbs

-- Every time that the message can state is one the system clock can represent.
def validateClientHello (wall : ℤ) (hello : ClientHello) (peer : PeerIdentity)
    (config : HandshakeConfig) : Result Unit := do
  if hello.serviceId ≠ peer.serviceId ∨ hello.role ≠ WireRole.entry ∨
      hello.nonce.length ≠ nonceSize ∨ hello.initialConnectionReceiveWindow = 0 ∨
      hello.initialConnectionReceiveWindow.toNat > maxConnectionWindow ∨
      hello.initialSessionReceiveWindow = 0 ∨
      hello.initialSessionReceiveWindow.toNat > maxStreamWindow then
    throw .protocolViolation
  validateServiceId hello.serviceId
  if hello.unixSeconds < 0 then throw .protocolViolation
  if clockSkew wall hello.unixSeconds > maxClockSkew then throw .replayDetected
  let _ ← selectVersion hello config

def validateServerHello (server : ServerHello) (peer : PeerIdentity) (client : ClientHello)
    (config : HandshakeConfig) : Result Unit := do
  let selected ← versionFromWire (← okOr .protocolViolation server.selectedVersion)
  if server.serviceId ≠ peer.serviceId ∨ server.role ≠ WireRole.exit ∨
      server.echoedClientNonce ≠ client.nonce ∨ server.serverNonce.length ≠ nonceSize ∨
      server.connectionId.length ≠ connectionIdSize ∨ selected < config.minimumVersion ∨
      selected > config.maximumVersion ∨ selected ≠ config.maximumVersion ∨
      server.maximumConcurrentSessions = 0 ∨ server.initialConnectionReceiveWindow = 0 ∨
      server.initialConnectionReceiveWindow.toNat > maxConnectionWindow ∨
      server.initialSessionReceiveWindow = 0 ∨
      server.initialSessionReceiveWindow.toNat > maxStreamWindow then
    throw .protocolViolation
  validateServiceId server.serviceId

end Hellos

structure ReplayCache where
  entries : Table (String × Block nonceSize) ℕ
  ttl : ℕ
  maximumEntries : ℕ
  poisoned : Bool

namespace ReplayCache

def default : ReplayCache where
  entries := ∅
  ttl := defaultReplayTtl
  maximumEntries := maxReplayEntries
  poisoned := false

def checkAndInsert (serviceId : String) (nonce : Bytes) (now : ℕ) :
    EStateM ErrorCode ReplayCache Unit := do
  let nonce ← exactly nonceSize nonce
  let cache ← get
  if cache.poisoned then throw .internal
  let entries := Table.retain (fun _ inserted => now - inserted ≤ cache.ttl) cache.entries
  set { cache with entries }
  let key := (serviceId, nonce)
  if entries.contains key then throw .replayDetected
  if entries.size ≥ cache.maximumEntries then throw .resourceExhausted
  set { cache with entries := entries.insert key now }

end ReplayCache

structure ProtocolConnection where
  localRole : GatewayRole
  peer : PeerIdentity
  version : ProtocolVersion
  connectionId : Block connectionIdSize
  nextSendSequence : UInt64
  nextReceiveSequence : UInt64
  limits : ProtocolLimits
  flow : FlowController
  localDraining : Bool
  peerDraining : Bool

structure AuthenticatedTls where
  peer : PeerIdentity
  channelBinding : Block 32

structure Clock where
  wall : ℤ
  monotonic : ℕ

def unixNow (wall : ℤ) : Result Int64 :=
  if 0 ≤ wall ∧ wall / nanosPerSecond < 2 ^ 63 then pure (Int64.ofInt (wall / nanosPerSecond))
  else throw .internal

def finishedBinding (sha256 : Bytes → Block 32) (channelBinding : Block 32)
    (clientNonce serverNonce : Block nonceSize) (connectionId : Block connectionIdSize)
    (version : ProtocolVersion) (entry exit : PeerIdentity) (direction : String) : Block 32 :=
  sha256 (utf8Bytes "onionroute-inter-gateway-finished-v1\x00" ++ channelBinding ++ clientNonce ++
    serverNonce ++ connectionId ++ beBytes16 version.major ++ beBytes16 version.minor ++
    beBytes16 (UInt16.ofNat entry.serviceId.utf8ByteSize) ++ utf8Bytes entry.serviceId ++
    beBytes16 (UInt16.ofNat exit.serviceId.utf8ByteSize) ++ utf8Bytes exit.serviceId ++
    utf8Bytes direction)

def frameVersion (frame : InterGatewayFrame) : Result (Option ProtocolVersion) :=
  frame.version.mapM versionFromWire

def validateActiveEnvelope (frame : InterGatewayFrame) (sequence : UInt64)
    (version : ProtocolVersion) (connectionId : Block connectionIdSize) : Result Unit := do
  if frame.sequence ≠ sequence ∨ frame.connectionId ≠ connectionId then throw .protocolViolation
  if (← frameVersion frame) ≠ some version then throw .protocolViolation

def validateFinishedFrame (frame : InterGatewayFrame) (sequence : UInt64)
    (version : ProtocolVersion) (connectionId : Block connectionIdSize) (expected : Block 32) :
    Result Unit := do
  validateActiveEnvelope frame sequence version connectionId
  match frame.body with
  | some (.finished finished) =>
    if finished.exporterBinding ≠ expected then throw .replayDetected
  | _ => throw .protocolViolation

abbrev Gateway (α : Type) := Process InterGatewayFrame ErrorCode α

def writeFrame (frame : InterGatewayFrame) (maximum : ℕ) : Gateway Unit := do
  checkFrameSize frame maximum
  Process.write frame

def readFrame (maximum : ℕ) : Gateway InterGatewayFrame := do
  if maximum = 0 ∨ maximum > absoluteMaxFrameSize then throw .invalidConfiguration
  let frame ← Process.read
  if frame.encodedLen = 0 ∨ frame.encodedLen > maximum ∨ frame.body = none then
    throw .protocolViolation
  pure frame

def expectServerHello : Option Body → Result ServerHello
  | some (.serverHello server) => pure server
  | _ => throw .protocolViolation

def expectClientHello : Option Body → Result ClientHello
  | some (.clientHello hello) => pure hello
  | _ => throw .protocolViolation

def newFlow (peerWindow localWindow : UInt32) (maximumSessions : ℕ) : Result FlowController :=
  (FlowController.new peerWindow localWindow maximumSessions).mapError ErrorCode.ofProtocolError

namespace HandshakeConfig

def clientHello (config : HandshakeConfig) (localIdentity : PeerIdentity)
    (clientNonce : Block nonceSize) (unixSeconds : Int64) : ClientHello where
  serviceId := localIdentity.serviceId
  role := WireRole.entry
  minimumVersion := some config.minimumVersion.toWire
  maximumVersion := some config.maximumVersion.toWire
  nonce := clientNonce
  unixSeconds
  initialConnectionReceiveWindow := config.limits.initialConnectionWindow
  initialSessionReceiveWindow := config.limits.initialSessionWindow

def serverHello (config : HandshakeConfig) (localIdentity : PeerIdentity)
    (selected : ProtocolVersion) (clientNonce serverNonce : Block nonceSize)
    (connectionId : Block connectionIdSize) : ServerHello where
  serviceId := localIdentity.serviceId
  role := WireRole.exit
  selectedVersion := some selected.toWire
  echoedClientNonce := clientNonce
  serverNonce
  connectionId
  maximumConcurrentSessions := UInt32.ofNat config.limits.maximumConcurrentSessions
  initialConnectionReceiveWindow := config.limits.initialConnectionWindow
  initialSessionReceiveWindow := config.limits.initialSessionWindow

end HandshakeConfig

section Programs

variable (sha256 : Bytes → Block 32) (tls : AuthenticatedTls) (localIdentity : PeerIdentity)
  (config : HandshakeConfig)

def finishedFrame (version : ProtocolVersion) (connectionId : Block connectionIdSize)
    (binding : Block 32) : InterGatewayFrame where
  sequence := 2
  version := some version.toWire
  connectionId
  body := some (.finished ⟨binding⟩)

def connectEntry (wall : ℤ) (entropy : Option (Block nonceSize)) : Gateway ProtocolConnection := do
  config.validate
  validateHandshakeIdentity localIdentity .entry
  validateHandshakeIdentity tls.peer .exit
  let clientNonce ← okOr .internal entropy
  let hello := config.clientHello localIdentity clientNonce (← unixNow wall)
  writeFrame
    { sequence := 1
      version := some config.maximumVersion.toWire
      connectionId := []
      body := some (.clientHello hello) } config.limits.maximumFrameSize
  let frame ← readFrame config.limits.maximumFrameSize
  if frame.sequence ≠ 1 ∨ frame.connectionId.length ≠ connectionIdSize then
    throw .protocolViolation
  let server ← expectServerHello frame.body
  validateServerHello server tls.peer hello config
  let selected ← okOr .protocolViolation server.selectedVersion
  let version ← versionFromWire selected
  if (← frameVersion frame) ≠ some version ∨ frame.connectionId ≠ server.connectionId then
    throw .protocolViolation
  let connectionId ← exactly connectionIdSize server.connectionId
  let serverNonce ← exactly nonceSize server.serverNonce
  let binding := finishedBinding sha256 tls.channelBinding clientNonce serverNonce connectionId
    version localIdentity tls.peer
  let serverFinished ← readFrame config.limits.maximumFrameSize
  validateFinishedFrame serverFinished 2 version connectionId (binding "server")
  writeFrame (finishedFrame version connectionId (binding "client")) config.limits.maximumFrameSize
  let flow ← newFlow server.initialConnectionReceiveWindow config.limits.initialConnectionWindow
    (min config.limits.maximumConcurrentSessions server.maximumConcurrentSessions.toNat)
  pure
    { localRole := .entry
      peer := tls.peer
      version
      connectionId
      nextSendSequence := 3
      nextReceiveSequence := 3
      limits := config.limits
      flow
      localDraining := false
      peerDraining := false }

/-- What `accept_exit` makes of the first frame: the hello, its nonce and the version. -/
def admitHello (clock : Clock) (frame : InterGatewayFrame) :
    EStateM ErrorCode ReplayCache (ClientHello × Block nonceSize × ProtocolVersion) := do
  if frame.sequence ≠ 1 ∨ frame.connectionId ≠ [] then throw .protocolViolation
  let hello ← expectClientHello frame.body
  validateClientHello clock.wall hello tls.peer config
  ReplayCache.checkAndInsert tls.peer.serviceId hello.nonce clock.monotonic
  let clientNonce ← exactly nonceSize hello.nonce
  let selected ← selectVersion hello config
  pure (hello, clientNonce, selected)

def admitted (cache : ReplayCache) (clock : Clock) (frame : InterGatewayFrame) :
    Result (ClientHello × Block nonceSize × ProtocolVersion) :=
  match admitHello tls config clock frame cache with
  | .ok admission _ => .ok admission
  | .error e _ => .error e

def acceptExit (cache : ReplayCache) (clock : Clock)
    (entropy : Option (Block nonceSize) × Option (Block connectionIdSize)) :
    Gateway ProtocolConnection := do
  config.validate
  validateHandshakeIdentity localIdentity .exit
  validateHandshakeIdentity tls.peer .entry
  let frame ← readFrame config.limits.maximumFrameSize
  let (hello, clientNonce, selected) ← admitted tls config cache clock frame
  let serverNonce ← okOr .internal entropy.1
  let connectionId ← okOr .internal entropy.2
  writeFrame
    { sequence := 1
      version := some selected.toWire
      connectionId
      body := some (.serverHello
        (config.serverHello localIdentity selected clientNonce serverNonce connectionId)) }
    config.limits.maximumFrameSize
  let binding := finishedBinding sha256 tls.channelBinding clientNonce serverNonce connectionId
    selected tls.peer localIdentity
  writeFrame (finishedFrame selected connectionId (binding "server")) config.limits.maximumFrameSize
  let clientFinished ← readFrame config.limits.maximumFrameSize
  validateFinishedFrame clientFinished 2 selected connectionId (binding "client")
  let flow ← newFlow hello.initialConnectionReceiveWindow config.limits.initialConnectionWindow
    config.limits.maximumConcurrentSessions
  pure
    { localRole := .exit
      peer := tls.peer
      version := selected
      connectionId
      nextSendSequence := 3
      nextReceiveSequence := 3
      limits := config.limits
      flow
      localDraining := false
      peerDraining := false }

end Programs

end OnionRoute.GatewayMultihop
