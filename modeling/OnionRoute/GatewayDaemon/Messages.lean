import OnionRoute.Library.Words

/-! Errors, limits and frames of the gateway daemon. Messages that the session loop only refuses are
tags. Text is the list of its UTF-8 bytes. -/

namespace OnionRoute.GatewayDaemon

open Library

inductive GatewayErrorCode
  | invalidConfiguration
  | messageTooLarge
  | protocolViolation
  | protocolIncompatible
  | authenticationUnavailable
  | tokenRejected
  | sessionExpired
  | policyDenied
  | dnsFailure
  | dnsRebinding
  | resourceExhausted
  | rateLimited
  | bandwidthExhausted
  | circuitOpen
  | draining
  | egressFailure
  | egressInfrastructureFailure
  | timeout
  | internal
  deriving DecidableEq

abbrev GatewayResult (α : Type) := Except GatewayErrorCode α

inductive ErrorCategory
  | unspecified
  | invalidInput
  | unsupported
  | unavailable
  | authentication
  | policy
  | protocol
  | resourceExhausted
  | internal
  deriving DecidableEq

inductive RetryHint
  | unspecified
  | never
  | immediate
  | backoff
  | afterDirectoryRefresh
  | afterTokenRefresh
  | userActionRequired
  deriving DecidableEq

structure ErrorStatus where
  code : String
  category : ErrorCategory
  retryHint : RetryHint
  correlationId : Bytes
  deriving DecidableEq

namespace GatewayErrorCode

def asStr : GatewayErrorCode → String
  | invalidConfiguration => "invalid_configuration"
  | messageTooLarge => "message_too_large"
  | protocolViolation => "protocol_violation"
  | protocolIncompatible => "protocol_incompatible"
  | authenticationUnavailable => "authentication_unavailable"
  | tokenRejected => "token_rejected"
  | sessionExpired => "session_expired"
  | policyDenied => "policy_denied"
  | dnsFailure => "dns_failure"
  | dnsRebinding => "dns_rebinding"
  | resourceExhausted => "resource_exhausted"
  | rateLimited => "rate_limited"
  | bandwidthExhausted => "bandwidth_exhausted"
  | circuitOpen => "circuit_open"
  | draining => "gateway_draining"
  | egressFailure => "egress_failure"
  | egressInfrastructureFailure => "egress_infrastructure_failure"
  | timeout => "timeout"
  | internal => "internal"

def classification : GatewayErrorCode → ErrorCategory × RetryHint
  | messageTooLarge | protocolViolation => (.protocol, .never)
  | protocolIncompatible => (.unsupported, .never)
  | authenticationUnavailable => (.unavailable, .backoff)
  | tokenRejected | sessionExpired => (.authentication, .afterTokenRefresh)
  | policyDenied | dnsRebinding => (.policy, .never)
  | dnsFailure | egressFailure | egressInfrastructureFailure | timeout | circuitOpen | draining =>
    (.unavailable, .backoff)
  | resourceExhausted | rateLimited | bandwidthExhausted => (.resourceExhausted, .backoff)
  | invalidConfiguration | internal => (.internal, .never)

def toStatus (code : GatewayErrorCode) (correlationId : Bytes) : ErrorStatus where
  code := code.asStr
  category := code.classification.1
  retryHint := code.classification.2
  correlationId := correlationId

end GatewayErrorCode

structure LimitConfig where
  maxStreamsGlobal : ℕ := 16384
  maxStreamsPerSession : ℕ := 128
  maxFrameBytes : ℕ := 64 * 1024
  maxDataBytes : ℕ := 32 * 1024
  maxStreamWindow : ℕ := 4 * 1024 * 1024
  initialStreamWindow : ℕ := 256 * 1024
  scanWindowSeconds : ℕ := 60
  scanDistinctDestinationLimit : ℕ := 64

structure ProtocolVersion where
  major : UInt32
  minor : UInt32
  deriving DecidableEq

inductive DestinationValue
  | hostname (name : Bytes)
  | ipAddress (bytes : Bytes)
  deriving DecidableEq

structure WireDestination where
  value : Option DestinationValue
  deriving DecidableEq

structure OpenTcpRequest where
  streamId : UInt64
  destination : Option WireDestination
  port : UInt32
  initialWindow : UInt32
  deriving DecidableEq

structure OpenTcpResponse where
  streamId : UInt64
  opened : Bool
  error : Option ErrorStatus
  deriving DecidableEq

structure DnsQuery where
  queryId : UInt64
  wireQuery : Bytes
  deriving DecidableEq

structure DnsResponse where
  queryId : UInt64
  wireResponse : Bytes
  deriving DecidableEq

structure Data where
  streamId : UInt64
  payload : Bytes
  deriving DecidableEq

structure WindowUpdate where
  streamId : UInt64
  credit : UInt32
  deriving DecidableEq

structure HalfClose where
  streamId : UInt64
  deriving DecidableEq

structure ResetStream where
  streamId : UInt64
  reason : Option ErrorStatus
  deriving DecidableEq

structure Ping where
  nonce : Bytes
  deriving DecidableEq

structure Pong where
  nonce : Bytes
  deriving DecidableEq

inductive Body
  | clientHello
  | serverHello
  | authenticateRequest
  | authenticateResponse
  | openTcpRequest (message : OpenTcpRequest)
  | openTcpResponse (message : OpenTcpResponse)
  | dnsQuery (message : DnsQuery)
  | dnsResponse (message : DnsResponse)
  | data (message : Data)
  | windowUpdate (message : WindowUpdate)
  | halfClose (message : HalfClose)
  | resetStream (message : ResetStream)
  | ping (message : Ping)
  | pong (message : Pong)
  | goAway
  | error (status : ErrorStatus)
  | openRelayRequest
  | openRelayResponse
  deriving DecidableEq

structure GatewayFrame where
  version : Option ProtocolVersion
  sessionId : Bytes
  sequence : UInt64
  body : Option Body
  deriving DecidableEq

inductive StreamEvent
  | opened (streamId : UInt64) (initialWindow : ℕ) (result : GatewayResult Unit)
  | data (streamId : UInt64) (payload : Bytes)
  | halfClosed (streamId : UInt64)
  | failed (streamId : UInt64) (error : GatewayErrorCode)
  deriving DecidableEq

end OnionRoute.GatewayDaemon
