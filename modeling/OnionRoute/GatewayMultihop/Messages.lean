import OnionRoute.GatewayProtocol.WireFormat

/-! The frames that an entry gateway and an exit gateway exchange. -/

namespace OnionRoute.GatewayMultihop

open Library
open GatewayProtocol (absoluteMaxFrameSize uintField int32Field int64Field bytesField stringField
  optionField delimited)

inductive ErrorCode
  | invalidConfiguration
  | invalidIdentity
  | wrongRole
  | revoked
  | protocolIncompatible
  | protocolViolation
  | replayDetected
  | authenticationRejected
  | policyDenied
  | resourceExhausted
  | backpressure
  | draining
  | timeout
  | transportFailure
  | closed
  | internal
  deriving DecidableEq

abbrev Result (α : Type) := Except ErrorCode α

-- A failure of the inner protocol under the code it is reported with.
def ErrorCode.ofProtocolError : GatewayProtocol.ProtocolError → ErrorCode
  | .backpressure => .backpressure
  | .streamLimit => .resourceExhausted
  | .incompatibleVersion => .protocolIncompatible
  | .silentDowngrade => .protocolIncompatible
  | .handshakeTimeout => .timeout
  | .idleTimeout => .timeout
  | .closed => .closed
  | _ => .protocolViolation

structure ProtocolVersion where
  major : UInt16
  minor : UInt16
  deriving DecidableEq

namespace ProtocolVersion

def key (v : ProtocolVersion) : ℕ ×ₗ ℕ := toLex (v.major.toNat, v.minor.toNat)

lemma key_injective : Function.Injective key := by
  rintro ⟨a, b⟩ ⟨c, d⟩ h
  obtain ⟨hmajor, hminor⟩ : a.toNat = c.toNat ∧ b.toNat = d.toNat := by
    simpa [key] using h
  rw [UInt16.toNat_inj.mp hmajor, UInt16.toNat_inj.mp hminor]

instance : LinearOrder ProtocolVersion := LinearOrder.lift' key key_injective

end ProtocolVersion

structure WireVersion where
  major : UInt32
  minor : UInt32
  deriving DecidableEq

def ProtocolVersion.toWire (v : ProtocolVersion) : WireVersion :=
  ⟨v.major.toUInt32, v.minor.toUInt32⟩

structure ClientHello where
  serviceId : String
  role : Int32
  minimumVersion : Option WireVersion
  maximumVersion : Option WireVersion
  nonce : Bytes
  unixSeconds : Int64
  initialConnectionReceiveWindow : UInt32
  initialSessionReceiveWindow : UInt32
  deriving DecidableEq

structure ServerHello where
  serviceId : String
  role : Int32
  selectedVersion : Option WireVersion
  echoedClientNonce : Bytes
  serverNonce : Bytes
  connectionId : Bytes
  maximumConcurrentSessions : UInt32
  initialConnectionReceiveWindow : UInt32
  initialSessionReceiveWindow : UInt32
  deriving DecidableEq

structure Finished where
  exporterBinding : Bytes
  deriving DecidableEq

structure OpenSession where
  sessionId : UInt64
  terminalProtocolVersion : Option WireVersion
  initialReceiveWindow : UInt32
  expiresAtUnixSeconds : Int64
  deriving DecidableEq

structure SessionOpened where
  sessionId : UInt64
  initialReceiveWindow : UInt32
  deriving DecidableEq

structure SessionRejected where
  sessionId : UInt64
  code : Int32
  deriving DecidableEq

structure Data where
  sessionId : UInt64
  payload : Bytes
  deriving DecidableEq

structure WindowUpdate where
  sessionId : UInt64
  credit : UInt32
  deriving DecidableEq

structure HalfClose where
  sessionId : UInt64
  deriving DecidableEq

structure CloseSession where
  sessionId : UInt64
  code : Int32
  deriving DecidableEq

structure Ping where
  nonce : Bytes
  deriving DecidableEq

structure Pong where
  nonce : Bytes
  deriving DecidableEq

structure GoAway where
  lastAcceptedSessionId : UInt64
  drainTimeoutMs : UInt32
  deriving DecidableEq

inductive Body
  | clientHello (message : ClientHello)
  | serverHello (message : ServerHello)
  | finished (message : Finished)
  | openSession (message : OpenSession)
  | sessionOpened (message : SessionOpened)
  | sessionRejected (message : SessionRejected)
  | data (message : Data)
  | windowUpdate (message : WindowUpdate)
  | halfClose (message : HalfClose)
  | closeSession (message : CloseSession)
  | ping (message : Ping)
  | pong (message : Pong)
  | goAway (message : GoAway)
  deriving DecidableEq

structure InterGatewayFrame where
  sequence : UInt64
  version : Option WireVersion
  connectionId : Bytes
  body : Option Body
  deriving DecidableEq

def WireVersion.encode (m : WireVersion) : Bytes :=
  uintField 1 m.major.toNat ++ uintField 2 m.minor.toNat

def ClientHello.encode (m : ClientHello) : Bytes :=
  stringField 1 m.serviceId ++ int32Field 2 m.role ++
    optionField 3 WireVersion.encode m.minimumVersion ++
    optionField 4 WireVersion.encode m.maximumVersion ++ bytesField 5 m.nonce ++
    int64Field 6 m.unixSeconds ++ uintField 7 m.initialConnectionReceiveWindow.toNat ++
    uintField 8 m.initialSessionReceiveWindow.toNat

def ServerHello.encode (m : ServerHello) : Bytes :=
  stringField 1 m.serviceId ++ int32Field 2 m.role ++
    optionField 3 WireVersion.encode m.selectedVersion ++ bytesField 4 m.echoedClientNonce ++
    bytesField 5 m.serverNonce ++ bytesField 6 m.connectionId ++
    uintField 7 m.maximumConcurrentSessions.toNat ++
    uintField 8 m.initialConnectionReceiveWindow.toNat ++
    uintField 9 m.initialSessionReceiveWindow.toNat

def OpenSession.encode (m : OpenSession) : Bytes :=
  uintField 1 m.sessionId.toNat ++ optionField 2 WireVersion.encode m.terminalProtocolVersion ++
    uintField 3 m.initialReceiveWindow.toNat ++ int64Field 4 m.expiresAtUnixSeconds

namespace Body

def tag : Body → ℕ
  | clientHello _ => 10
  | serverHello _ => 11
  | finished _ => 12
  | openSession _ => 13
  | sessionOpened _ => 14
  | sessionRejected _ => 15
  | data _ => 16
  | windowUpdate _ => 17
  | halfClose _ => 18
  | closeSession _ => 19
  | ping _ => 20
  | pong _ => 21
  | goAway _ => 22

def content : Body → Bytes
  | clientHello m => m.encode
  | serverHello m => m.encode
  | finished m => bytesField 1 m.exporterBinding
  | openSession m => m.encode
  | sessionOpened m => uintField 1 m.sessionId.toNat ++ uintField 2 m.initialReceiveWindow.toNat
  | sessionRejected m => uintField 1 m.sessionId.toNat ++ int32Field 2 m.code
  | data m => uintField 1 m.sessionId.toNat ++ bytesField 2 m.payload
  | windowUpdate m => uintField 1 m.sessionId.toNat ++ uintField 2 m.credit.toNat
  | halfClose m => uintField 1 m.sessionId.toNat
  | closeSession m => uintField 1 m.sessionId.toNat ++ int32Field 2 m.code
  | ping m => bytesField 1 m.nonce
  | pong m => bytesField 1 m.nonce
  | goAway m => uintField 1 m.lastAcceptedSessionId.toNat ++ uintField 2 m.drainTimeoutMs.toNat

end Body

def InterGatewayFrame.encode (frame : InterGatewayFrame) : Bytes :=
  uintField 1 frame.sequence.toNat ++ optionField 2 WireVersion.encode frame.version ++
    bytesField 3 frame.connectionId ++
    frame.body.elim [] fun body => delimited body.tag body.content

def InterGatewayFrame.encodedLen (frame : InterGatewayFrame) : ℕ :=
  frame.encode.length

/-- The part of `encode_frame` that can refuse a frame; the length in front of it always fits. -/
def checkFrameSize (frame : InterGatewayFrame) (maximum : ℕ) : Result Unit := do
  if maximum = 0 ∨ maximum > absoluteMaxFrameSize then throw .invalidConfiguration
  if frame.encodedLen = 0 ∨ frame.encodedLen > maximum then throw .protocolViolation

end OnionRoute.GatewayMultihop
