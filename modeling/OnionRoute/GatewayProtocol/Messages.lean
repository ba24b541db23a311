import OnionRoute.GatewayProtocol.Limits

/-! The protobuf messages of the gateway protocol and the lengths of their encodings. -/

namespace OnionRoute.GatewayProtocol

open Library

def varintLen (n : ℕ) : ℕ := Nat.log2 n / 7 + 1

def keyLen (tag : ℕ) : ℕ := varintLen (tag * 8)

def delimitedLen (tag length : ℕ) : ℕ := keyLen tag + varintLen length + length

-- Scalar fields at their default value are not written.
def uintLen (tag n : ℕ) : ℕ := if n = 0 then 0 else keyLen tag + varintLen n

def int32Len (tag : ℕ) (n : Int32) : ℕ := uintLen tag n.toInt64.toUInt64.toNat

def int64Len (tag : ℕ) (n : Int64) : ℕ := uintLen tag n.toUInt64.toNat

def boolLen (tag : ℕ) (b : Bool) : ℕ := uintLen tag b.toNat

def bytesLen (tag : ℕ) (bytes : Bytes) : ℕ :=
  if bytes = [] then 0 else delimitedLen tag bytes.length

def stringLen (tag : ℕ) (s : String) : ℕ :=
  if s.utf8ByteSize = 0 then 0 else delimitedLen tag s.utf8ByteSize

def stringsLen (tag : ℕ) (strings : List String) : ℕ :=
  (strings.map fun s => delimitedLen tag s.utf8ByteSize).sum

structure ProtocolVersion where
  major : UInt32
  minor : UInt32
  deriving DecidableEq

def ProtocolVersion.encodedLen (v : ProtocolVersion) : ℕ :=
  uintLen 1 v.major.toNat + uintLen 2 v.minor.toNat

structure ProtocolVersionRange where
  minimum : Option ProtocolVersion
  maximum : Option ProtocolVersion
  deriving DecidableEq

def optionLen {α : Type} (tag : ℕ) (encodedLen : α → ℕ) (value : Option α) : ℕ :=
  value.elim 0 fun a => delimitedLen tag (encodedLen a)

def ProtocolVersionRange.encodedLen (r : ProtocolVersionRange) : ℕ :=
  optionLen 1 ProtocolVersion.encodedLen r.minimum + optionLen 2 ProtocolVersion.encodedLen r.maximum

structure ClientHello where
  supportedVersions : Option ProtocolVersionRange
  clientCapabilities : List String
  anonymityMode : Int32
  desiredCountry : String
  sessionNonce : Bytes
  maximumFrameSize : UInt32
  initialConnectionReceiveWindow : UInt32
  initialStreamReceiveWindow : UInt32
  deriving DecidableEq

def ClientHello.encodedLen (m : ClientHello) : ℕ :=
  optionLen 1 ProtocolVersionRange.encodedLen m.supportedVersions +
    stringsLen 2 m.clientCapabilities + int32Len 3 m.anonymityMode + stringLen 4 m.desiredCountry +
    bytesLen 5 m.sessionNonce + uintLen 6 m.maximumFrameSize.toNat +
    uintLen 7 m.initialConnectionReceiveWindow.toNat + uintLen 8 m.initialStreamReceiveWindow.toNat

structure ServerHello where
  supportedVersions : Option ProtocolVersionRange
  selectedVersion : Option ProtocolVersion
  enabledCapabilities : List String
  echoedClientNonce : Bytes
  serverNonce : Bytes
  ephemeralSessionId : Bytes
  maximumFrameSize : UInt32
  maximumConcurrentStreams : UInt32
  initialConnectionReceiveWindow : UInt32
  initialStreamReceiveWindow : UInt32
  idleStreamTimeoutMs : UInt32
  sessionTtlSeconds : UInt32
  deriving DecidableEq

def ServerHello.encodedLen (m : ServerHello) : ℕ :=
  optionLen 1 ProtocolVersionRange.encodedLen m.supportedVersions +
    optionLen 2 ProtocolVersion.encodedLen m.selectedVersion + stringsLen 3 m.enabledCapabilities +
    bytesLen 4 m.echoedClientNonce + bytesLen 5 m.serverNonce + bytesLen 6 m.ephemeralSessionId +
    uintLen 7 m.maximumFrameSize.toNat + uintLen 8 m.maximumConcurrentStreams.toNat +
    uintLen 9 m.initialConnectionReceiveWindow.toNat +
    uintLen 10 m.initialStreamReceiveWindow.toNat + uintLen 11 m.idleStreamTimeoutMs.toNat +
    uintLen 12 m.sessionTtlSeconds.toNat

structure Authenticate where
  anonymousCapabilityToken : Bytes
  proofOfPossession : Bytes
  sessionNonceBinding : Bytes
  deriving DecidableEq

def Authenticate.encodedLen (m : Authenticate) : ℕ :=
  bytesLen 1 m.anonymousCapabilityToken + bytesLen 2 m.proofOfPossession +
    bytesLen 3 m.sessionNonceBinding

structure AuthenticationResult where
  accepted : Bool
  errorCode : Int32
  grantedCapabilities : List String
  expiresAtUnixSeconds : Int64
  deriving DecidableEq

def AuthenticationResult.encodedLen (m : AuthenticationResult) : ℕ :=
  boolLen 1 m.accepted + int32Len 2 m.errorCode + stringsLen 3 m.grantedCapabilities +
    int64Len 4 m.expiresAtUnixSeconds

inductive DestinationValue
  | hostname (name : String)
  | ipAddress (address : Bytes)
  deriving DecidableEq

structure Destination where
  value : Option DestinationValue
  deriving DecidableEq

-- A member of a oneof is written even when it is empty.
def Destination.encodedLen (m : Destination) : ℕ :=
  match m.value with
  | none => 0
  | some (.hostname name) => delimitedLen 1 name.utf8ByteSize
  | some (.ipAddress address) => delimitedLen 2 address.length

structure OpenTcpStream where
  streamId : UInt64
  destination : Option Destination
  destinationPort : UInt32
  timeoutMs : UInt32
  policyFlags : UInt32
  initialReceiveWindow : UInt32
  deriving DecidableEq

def OpenTcpStream.encodedLen (m : OpenTcpStream) : ℕ :=
  uintLen 1 m.streamId.toNat + optionLen 2 Destination.encodedLen m.destination +
    uintLen 3 m.destinationPort.toNat + uintLen 4 m.timeoutMs.toNat +
    uintLen 5 m.policyFlags.toNat + uintLen 6 m.initialReceiveWindow.toNat

structure TcpStreamOpened where
  streamId : UInt64
  initialReceiveWindow : UInt32
  deriving DecidableEq

def TcpStreamOpened.encodedLen (m : TcpStreamOpened) : ℕ :=
  uintLen 1 m.streamId.toNat + uintLen 2 m.initialReceiveWindow.toNat

structure TcpStreamRejected where
  streamId : UInt64
  errorCode : Int32
  retryHint : Int32
  deriving DecidableEq

def TcpStreamRejected.encodedLen (m : TcpStreamRejected) : ℕ :=
  uintLen 1 m.streamId.toNat + int32Len 2 m.errorCode + int32Len 3 m.retryHint

structure Data where
  streamId : UInt64
  payload : Bytes
  deriving DecidableEq

def Data.encodedLen (m : Data) : ℕ :=
  uintLen 1 m.streamId.toNat + bytesLen 2 m.payload

structure WindowUpdate where
  streamId : UInt64
  credit : UInt32
  deriving DecidableEq

def WindowUpdate.encodedLen (m : WindowUpdate) : ℕ :=
  uintLen 1 m.streamId.toNat + uintLen 2 m.credit.toNat

structure HalfClose where
  streamId : UInt64
  deriving DecidableEq

def HalfClose.encodedLen (m : HalfClose) : ℕ :=
  uintLen 1 m.streamId.toNat

structure CloseStream where
  streamId : UInt64
  code : Int32
  deriving DecidableEq

def CloseStream.encodedLen (m : CloseStream) : ℕ :=
  uintLen 1 m.streamId.toNat + int32Len 2 m.code

structure ResolveDomain where
  queryId : UInt64
  hostname : String
  addressFamily : Int32
  timeoutMs : UInt32
  deriving DecidableEq

def ResolveDomain.encodedLen (m : ResolveDomain) : ℕ :=
  uintLen 1 m.queryId.toNat + stringLen 2 m.hostname + int32Len 3 m.addressFamily +
    uintLen 4 m.timeoutMs.toNat

structure ResolveResult where
  queryId : UInt64
  errorCode : Int32
  ipAddresses : List Bytes
  minimumTtlSeconds : UInt32
  deriving DecidableEq

def ResolveResult.encodedLen (m : ResolveResult) : ℕ :=
  uintLen 1 m.queryId.toNat + int32Len 2 m.errorCode +
    (m.ipAddresses.map fun address => delimitedLen 3 address.length).sum +
    uintLen 4 m.minimumTtlSeconds.toNat

structure RotateSession where
  rotationNonce : Bytes
  reason : Int32
  drainTimeoutMs : UInt32
  deriving DecidableEq

def RotateSession.encodedLen (m : RotateSession) : ℕ :=
  bytesLen 1 m.rotationNonce + int32Len 2 m.reason + uintLen 3 m.drainTimeoutMs.toNat

structure SessionRotated where
  rotationNonce : Bytes
  accepted : Bool
  errorCode : Int32
  replacementTransportRequired : Bool
  deriving DecidableEq

def SessionRotated.encodedLen (m : SessionRotated) : ℕ :=
  bytesLen 1 m.rotationNonce + boolLen 2 m.accepted + int32Len 3 m.errorCode +
    boolLen 4 m.replacementTransportRequired

structure Ping where
  nonce : Bytes
  deriving DecidableEq

def Ping.encodedLen (m : Ping) : ℕ :=
  bytesLen 1 m.nonce

structure Pong where
  nonce : Bytes
  deriving DecidableEq

def Pong.encodedLen (m : Pong) : ℕ :=
  bytesLen 1 m.nonce

structure Error where
  code : Int32
  retryHint : Int32
  fatal : Bool
  streamId : UInt64
  retryAfterMs : UInt32
  correlationId : Bytes
  deriving DecidableEq

def Error.encodedLen (m : Error) : ℕ :=
  int32Len 1 m.code + int32Len 2 m.retryHint + boolLen 3 m.fatal + uintLen 4 m.streamId.toNat +
    uintLen 5 m.retryAfterMs.toNat + bytesLen 6 m.correlationId

structure GoAway where
  lastAcceptedStreamId : UInt64
  code : Int32
  drainTimeoutMs : UInt32
  deriving DecidableEq

def GoAway.encodedLen (m : GoAway) : ℕ :=
  uintLen 1 m.lastAcceptedStreamId.toNat + int32Len 2 m.code + uintLen 3 m.drainTimeoutMs.toNat

inductive Body
  | clientHello (message : ClientHello)
  | serverHello (message : ServerHello)
  | authenticate (message : Authenticate)
  | authenticationResult (message : AuthenticationResult)
  | openTcpStream (message : OpenTcpStream)
  | tcpStreamOpened (message : TcpStreamOpened)
  | tcpStreamRejected (message : TcpStreamRejected)
  | data (message : Data)
  | windowUpdate (message : WindowUpdate)
  | halfClose (message : HalfClose)
  | closeStream (message : CloseStream)
  | resolveDomain (message : ResolveDomain)
  | resolveResult (message : ResolveResult)
  | rotateSession (message : RotateSession)
  | sessionRotated (message : SessionRotated)
  | ping (message : Ping)
  | pong (message : Pong)
  | error (message : Error)
  | goAway (message : GoAway)
  deriving DecidableEq

def Body.encodedLen : Body → ℕ
  | .clientHello m => delimitedLen 10 m.encodedLen
  | .serverHello m => delimitedLen 11 m.encodedLen
  | .authenticate m => delimitedLen 12 m.encodedLen
  | .authenticationResult m => delimitedLen 13 m.encodedLen
  | .openTcpStream m => delimitedLen 14 m.encodedLen
  | .tcpStreamOpened m => delimitedLen 15 m.encodedLen
  | .tcpStreamRejected m => delimitedLen 16 m.encodedLen
  | .data m => delimitedLen 17 m.encodedLen
  | .windowUpdate m => delimitedLen 18 m.encodedLen
  | .halfClose m => delimitedLen 19 m.encodedLen
  | .closeStream m => delimitedLen 20 m.encodedLen
  | .resolveDomain m => delimitedLen 21 m.encodedLen
  | .resolveResult m => delimitedLen 22 m.encodedLen
  | .rotateSession m => delimitedLen 23 m.encodedLen
  | .sessionRotated m => delimitedLen 24 m.encodedLen
  | .ping m => delimitedLen 25 m.encodedLen
  | .pong m => delimitedLen 26 m.encodedLen
  | .error m => delimitedLen 27 m.encodedLen
  | .goAway m => delimitedLen 28 m.encodedLen

structure GatewayFrame where
  sequence : ℕ
  version : Option ProtocolVersion
  criticalExtensionIds : List UInt32
  sessionId : Bytes
  body : Option Body
  deriving DecidableEq

def packedLen (tag : ℕ) (values : List UInt32) : ℕ :=
  if values = [] then 0
  else delimitedLen tag (values.map fun value => varintLen value.toNat).sum

def GatewayFrame.encodedLen (frame : GatewayFrame) : ℕ :=
  uintLen 1 frame.sequence + optionLen 2 ProtocolVersion.encodedLen frame.version +
    packedLen 3 frame.criticalExtensionIds + bytesLen 4 frame.sessionId +
    frame.body.elim 0 Body.encodedLen

end OnionRoute.GatewayProtocol
