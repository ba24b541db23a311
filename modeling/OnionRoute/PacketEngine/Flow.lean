import OnionRoute.PacketEngine.Packet

/-! Flow metadata, lifecycle state and buffer accounting, with the inputs and the actions. -/

namespace OnionRoute.PacketEngine

open Library

structure FlowId where
  value : UInt64
  deriving DecidableEq

structure IsolationKey where
  value : Vector UInt8 32
  deriving DecidableEq

structure GatewayId where
  value : String
  deriving DecidableEq

structure ApplicationTag where
  value : String
  deriving DecidableEq

inductive AnonymityMode
  | standard
  | enhanced
  | maximum
  | directTor
  deriving DecidableEq

inductive PolicyAction
  | tunnel
  | bypass
  | block
  deriving DecidableEq

structure PolicyDecision where
  action : PolicyAction
  ruleId : String
  deriving DecidableEq

inductive IpAddr
  | v4 (address : Ipv4Addr)
  | v6 (octets : Vector UInt8 16)
  deriving DecidableEq

inductive TcpHost
  | hostname (name : String)
  | ip (address : IpAddr)
  deriving DecidableEq

structure TcpFlowRequest where
  flowId : FlowId
  host : TcpHost
  port : UInt16
  application : Option ApplicationTag
  deriving DecidableEq

structure DnsQuery where
  queryId : UInt64
  wire : Bytes
  deriving DecidableEq

def maxDnsMessageBytes : ℕ := 64 * 1024

inductive ClientConnectionState
  | disconnected
  | preparing
  | applyingKillSwitch
  | bootstrappingTor
  | loadingDirectory
  | selectingGateway
  | authenticating
  | connected
  | rotating
  | reconnecting
  | degraded
  | disconnecting
  | blocked
  | fatalError
  deriving DecidableEq

structure TransportEndpoint where
  address : Ipv4Addr
  port : UInt16
  deriving DecidableEq

structure FlowTimestamps where
  createdMs : ℕ
  lastActivityMs : ℕ
  connectStartedMs : Option ℕ
  deriving DecidableEq

structure BufferLimits where
  toGatewayBytes : ℕ
  toApplicationBytes : ℕ
  deriving DecidableEq

inductive TcpFlowState
  | connecting
  | synAckSent
  | established
  | halfClosedLocal
  | halfClosedRemote
  | closing
  | reset
  | closed
  deriving DecidableEq

structure FlowSnapshot where
  flowId : FlowId
  source : TransportEndpoint
  destination : TransportEndpoint
  hostname : Option String
  application : Option ApplicationTag
  isolationKey : IsolationKey
  anonymityProfile : AnonymityMode
  gatewayId : Option GatewayId
  timestamps : FlowTimestamps
  state : TcpFlowState
  limits : BufferLimits
  queuedToGateway : ℕ
  queuedToApplication : ℕ
  deriving DecidableEq

structure FlowKey where
  source : TransportEndpoint
  destination : TransportEndpoint
  deriving DecidableEq

structure OutstandingSegment where
  sequence : UInt32
  acknowledgement : UInt32
  flags : TcpFlags
  payload : Bytes
  sentMs : ℕ
  retransmissions : UInt8
  deriving DecidableEq

structure FlowRecord where
  snapshot : FlowSnapshot
  key : FlowKey
  clientNext : UInt32
  serverNext : UInt32
  dnsTcp : Bool
  dnsBuffer : Bytes
  outstandingToApplication : Option OutstandingSegment
  deriving DecidableEq

structure PlatformMetadata where
  application : Option ApplicationTag
  monotonicMs : ℕ
  deriving DecidableEq

structure ProtectedRoute where
  decision : PolicyDecision
  hostname : Option String
  isolationKey : IsolationKey
  anonymityProfile : AnonymityMode
  gatewayId : Option GatewayId
  deriving DecidableEq

structure PacketEngineInput where
  packet : Bytes
  platform : PlatformMetadata
  route : Option ProtectedRoute
  connectionState : ClientConnectionState
  deriving DecidableEq

inductive BlockReason
  | malformedPacket
  | ipv6Blocked
  | udpBlocked
  | quicBlocked
  | icmpUnsupported
  | unsupportedTransport
  | policyDenied
  | directFallbackForbidden
  | protectedPathUnavailable
  | backpressure
  | connectionTimeout
  | idleTimeout
  | shutdown
  | downstreamFailure
  deriving DecidableEq

inductive DiagnosticCode
  | malformedPacket
  | retransmission
  | outOfOrder
  | flowLimit
  | bufferLimit
  | unknownFlow
  | resumePathInvalid
  | shutdown
  deriving DecidableEq

inductive CloseDirection
  | write
  | both
  deriving DecidableEq

inductive DnsResponseTarget
  | udp (client resolver : TransportEndpoint)
  | tcp (flowId : FlowId)
  deriving DecidableEq

inductive EngineAction
  | openProtectedStream (request : TcpFlowRequest) (isolationKey : IsolationKey)
      (anonymityProfile : AnonymityMode) (gatewayId : Option GatewayId)
  | forwardPayload (flowId : FlowId) (payload : Bytes)
  | resolveDns (query : DnsQuery) (target : DnsResponseTarget)
  | closeProtectedStream (flowId : FlowId) (direction : CloseDirection)
  | sendSyntheticResponse (packet : Bytes)
  | blockFlow (flowId : Option FlowId) (reason : BlockReason)
  | recordDiagnostic (code : DiagnosticCode) (flowId : Option FlowId)
  deriving DecidableEq

def endpoints (source : Ipv4Addr) (sourcePort : UInt16) (destination : Ipv4Addr)
    (destinationPort : UInt16) : TransportEndpoint × TransportEndpoint :=
  (⟨source, sourcePort⟩, ⟨destination, destinationPort⟩)

def TcpSegment.key (segment : TcpSegment) : FlowKey :=
  let (source, destination) := endpoints segment.source segment.sourcePort segment.destination
    segment.destinationPort
  { source, destination }

end OnionRoute.PacketEngine
