import OnionRoute.GatewayProtocol.Messages

/-! Field checks of inbound and outbound frames. -/

namespace OnionRoute.GatewayProtocol

open Library

def tcpConnectV1 : String := "tcp-connect-v1"
def flowControlV1 : String := "flow-control-v1"
def resolveDomainV1 : String := "resolve-domain-v1"
def sessionRotationV1 : String := "session-rotation-v1"

inductive ErrorCode
  | unspecified
  | protocolIncompatible
  | protocolViolation
  | messageTooLarge
  | authenticationFailed
  | policyDenied
  | resourceExhausted
  | unavailable
  | timeout
  | streamClosed
  | internal
  | unsupported
  | sessionRotating
  deriving DecidableEq

def ErrorCode.tryFrom (value : Int32) : Option ErrorCode :=
  match value.toInt with
  | 0 => some .unspecified
  | 1 => some .protocolIncompatible
  | 2 => some .protocolViolation
  | 3 => some .messageTooLarge
  | 4 => some .authenticationFailed
  | 5 => some .policyDenied
  | 6 => some .resourceExhausted
  | 7 => some .unavailable
  | 8 => some .timeout
  | 9 => some .streamClosed
  | 10 => some .internal
  | 11 => some .unsupported
  | 12 => some .sessionRotating
  | _ => none

inductive AnonymityMode
  | unspecified
  | standard
  | enhanced
  | maximum
  | directTor
  deriving DecidableEq

def AnonymityMode.tryFrom (value : Int32) : Option AnonymityMode :=
  match value.toInt with
  | 0 => some .unspecified
  | 1 => some .standard
  | 2 => some .enhanced
  | 3 => some .maximum
  | 4 => some .directTor
  | _ => none

inductive AddressFamily
  | unspecified
  | ipv4
  | ipv6
  | any
  deriving DecidableEq

def AddressFamily.tryFrom (value : Int32) : Option AddressFamily :=
  match value.toInt with
  | 0 => some .unspecified
  | 1 => some .ipv4
  | 2 => some .ipv6
  | 3 => some .any
  | _ => none

inductive RotationReason
  | unspecified
  | manual
  | scheduled
  | policy
  deriving DecidableEq

def RotationReason.tryFrom (value : Int32) : Option RotationReason :=
  match value.toInt with
  | 0 => some .unspecified
  | 1 => some .manual
  | 2 => some .scheduled
  | 3 => some .policy
  | _ => none

inductive CloseCode
  | unspecified
  | finished
  | cancelled
  | timeout
  | protocol
  | policy
  | resourceExhausted
  | internal
  deriving DecidableEq

def CloseCode.tryFrom (value : Int32) : Option CloseCode :=
  match value.toInt with
  | 0 => some .unspecified
  | 1 => some .finished
  | 2 => some .cancelled
  | 3 => some .timeout
  | 4 => some .protocol
  | 5 => some .policy
  | 6 => some .resourceExhausted
  | 7 => some .internal
  | _ => none

def CloseCode.toInt32 : CloseCode → Int32
  | .unspecified => 0
  | .finished => 1
  | .cancelled => 2
  | .timeout => 3
  | .protocol => 4
  | .policy => 5
  | .resourceExhausted => 6
  | .internal => 7

inductive RetryHint
  | unspecified
  | never
  | immediate
  | backoff
  | afterDirectoryRefresh
  | afterTokenRefresh
  | userActionRequired
  deriving DecidableEq

def RetryHint.tryFrom (value : Int32) : Option RetryHint :=
  match value.toInt with
  | 0 => some .unspecified
  | 1 => some .never
  | 2 => some .immediate
  | 3 => some .backoff
  | 4 => some .afterDirectoryRefresh
  | 5 => some .afterTokenRefresh
  | 6 => some .userActionRequired
  | _ => none

def knownEnum {α : Type} (tryFrom : Int32 → Option α) (value : Int32) (field : String) :
    Result α :=
  match tryFrom value with
  | some known => pure known
  | none => throw (.invalidField field)

def knownNonzeroEnum {α : Type} (tryFrom : Int32 → Option α) (value : Int32) (field : String) :
    Result α := do
  if value = 0 then throw (.invalidField field)
  knownEnum tryFrom value field

def require (condition : Prop) [Decidable condition] (field : String) : Result Unit :=
  if condition then pure () else throw (.invalidField field)

def exactLength (value : Bytes) (expected : ℕ) (field : String) : Result Unit :=
  require (value.length = expected) field

def boundedRange (value : Bytes) (minimum maximum : ℕ) (field : String) : Result Unit :=
  require (minimum ≤ value.length ∧ value.length ≤ maximum) field

def boundedNonempty (value : Bytes) (maximum : ℕ) (field : String) : Result Unit :=
  boundedRange value 1 maximum field

def validateDrainTimeout (value : UInt32) : Result Unit :=
  require (value ≠ 0 ∧ value ≤ maxDrainTimeoutMs) "drain_timeout_ms"

def validateTimeout (value : UInt32) : Result Unit :=
  require (value ≠ 0 ∧ value ≤ maxTimeoutMs) "timeout_ms"

def validateStreamWindow (value : UInt32) : Result Unit :=
  require (value ≠ 0 ∧ value.toNat ≤ maxStreamWindow) "stream_window"

def validateConnectionWindow (value : UInt32) : Result Unit :=
  require (value ≠ 0 ∧ value.toNat ≤ maxConnectionWindow) "connection_window"

def validateFrameLimit (value : UInt32) : Result Unit :=
  require (minNegotiableFrameSize ≤ value.toNat ∧ value.toNat ≤ absoluteMaxFrameSize)
    "maximum_frame_size"

def validateIpAddress (address : Bytes) : Result Unit :=
  require (address.length = 4 ∨ address.length = 16) "ip_address"

def isAscii (s : String) : Bool :=
  s.toList.all fun c => c.val < 128

def validateCountry (country : String) : Result Unit :=
  require (country = "" ∨
    (country.utf8ByteSize = 2 ∧ country.toList.all fun c => 'A' ≤ c && c ≤ 'Z')) "desired_country"

def validateHostname (hostname : String) : Result Unit := do
  require (hostname ≠ "" ∧ hostname.utf8ByteSize ≤ maxHostname ∧ isAscii hostname ∧
    hostname.toList.getLast? ≠ some '.') "hostname"
  for label in hostname.toList.splitOn '.' do
    require (label ≠ [] ∧ label.length ≤ 63 ∧ label.head? ≠ some '-' ∧ label.getLast? ≠ some '-' ∧
      label.all fun c => c.isAlphanum || c = '-') "hostname"

def validateStreamId (streamId : UInt64) : Result Unit :=
  if streamId = 0 ∨ streamId &&& 1 = 0 then throw .invalidStreamId else pure ()

def validateVersionRange (range : ProtocolVersionRange) : Result (UInt32 × UInt32 × UInt32) :=
  match range.minimum, range.maximum with
  | none, _ => throw (.invalidField "minimum_version")
  | some _, none => throw (.invalidField "maximum_version")
  | some minimum, some maximum =>
    if minimum.major = 0 ∨ minimum.major ≠ maximum.major ∨ minimum.minor > maximum.minor then
      throw (.invalidField "supported_versions")
    else pure (minimum.major, minimum.minor, maximum.minor)

def capabilityName (value : String) : List Char :=
  (value.toList.dropPrefix? "required:".toList).getD value.toList

def validateCapabilities (capabilities : List String) : Result Unit := do
  require (capabilities.length ≤ maxCapabilities) "capabilities"
  for value in capabilities do
    require (value ≠ "" ∧ value.utf8ByteSize ≤ maxCapabilityName ∧ isAscii value ∧
      value.toList.all fun c =>
        ('a' ≤ c && c ≤ 'z') || ('0' ≤ c && c ≤ '9') || c = '-' || c = ':' || c = '.')
      "capability_name"
    let name := capabilityName value
    require (name ≠ [] ∧ name.head? ≠ some '-' ∧ name.getLast? ≠ some '-') "capability_name"

def validateClientHello (message : ClientHello) : Result Unit := do
  let some range := message.supportedVersions | throw (.invalidField "supported_versions")
  let _ ← validateVersionRange range
  validateCapabilities message.clientCapabilities
  let mode ← knownNonzeroEnum AnonymityMode.tryFrom message.anonymityMode "anonymity_mode"
  require (mode ≠ .directTor) "anonymity_mode"
  validateCountry message.desiredCountry
  exactLength message.sessionNonce 32 "session_nonce"
  validateFrameLimit message.maximumFrameSize
  validateConnectionWindow message.initialConnectionReceiveWindow
  validateStreamWindow message.initialStreamReceiveWindow

def validateServerHello (message : ServerHello) : Result Unit := do
  let some range := message.supportedVersions | throw (.invalidField "supported_versions")
  let _ ← validateVersionRange range
  require (message.selectedVersion.any fun version => version.major ≠ 0) "selected_version"
  validateCapabilities message.enabledCapabilities
  exactLength message.echoedClientNonce 32 "echoed_client_nonce"
  exactLength message.serverNonce 32 "server_nonce"
  exactLength message.ephemeralSessionId 16 "ephemeral_session_id"
  validateFrameLimit message.maximumFrameSize
  require (message.maximumConcurrentStreams ≠ 0 ∧
    message.maximumConcurrentStreams.toNat ≤ maxConcurrentStreams) "maximum_concurrent_streams"
  validateConnectionWindow message.initialConnectionReceiveWindow
  validateStreamWindow message.initialStreamReceiveWindow
  require (message.idleStreamTimeoutMs ≠ 0 ∧ message.idleStreamTimeoutMs ≤ 3600000)
    "idle_stream_timeout_ms"
  require (message.sessionTtlSeconds ≠ 0 ∧ message.sessionTtlSeconds ≤ maxSessionTtlSeconds)
    "session_ttl_seconds"

def validateAuthenticate (message : Authenticate) : Result Unit := do
  boundedNonempty message.anonymousCapabilityToken maxCapabilityToken "token"
  require (message.proofOfPossession.length ≤ maxProofOfPossession) "proof_of_possession"
  exactLength message.sessionNonceBinding 32 "session_nonce_binding"

def validateAuthenticationResult (message : AuthenticationResult) : Result Unit := do
  validateCapabilities message.grantedCapabilities
  let error ← knownEnum ErrorCode.tryFrom message.errorCode "authentication_error_code"
  if message.accepted then
    require (error = .unspecified ∧ 0 < message.expiresAtUnixSeconds) "authentication_result"
  else
    require (error ≠ .unspecified ∧ message.expiresAtUnixSeconds = 0) "authentication_result"

def validateOpenTcp (message : OpenTcpStream) : Result Unit := do
  validateStreamId message.streamId
  match message.destination.bind Destination.value with
  | none => throw (.invalidField "destination")
  | some (.hostname hostname) => validateHostname hostname
  | some (.ipAddress address) => validateIpAddress address
  require (message.destinationPort ≠ 0 ∧ message.destinationPort ≤ 65535) "destination_port"
  validateTimeout message.timeoutMs
  require (message.policyFlags &&& ~~~3 = 0 ∧ message.policyFlags ≠ 3) "policy_flags"
  validateStreamWindow message.initialReceiveWindow

def validateStreamOpened (message : TcpStreamOpened) : Result Unit := do
  validateStreamId message.streamId
  validateStreamWindow message.initialReceiveWindow

def validateStreamRejected (message : TcpStreamRejected) : Result Unit := do
  validateStreamId message.streamId
  let _ ← knownNonzeroEnum ErrorCode.tryFrom message.errorCode "stream_error_code"
  let _ ← knownEnum RetryHint.tryFrom message.retryHint "retry_hint"

def validateData (message : Data) : Result Unit := do
  validateStreamId message.streamId
  boundedNonempty message.payload maxDataPayload "data_payload"

def validateWindowUpdate (message : WindowUpdate) : Result Unit := do
  if message.streamId ≠ 0 then validateStreamId message.streamId
  require (message.credit ≠ 0) "window_credit"

def validateCloseStream (message : CloseStream) : Result Unit := do
  validateStreamId message.streamId
  let _ ← knownNonzeroEnum CloseCode.tryFrom message.code "close_code"

def validateResolveDomain (message : ResolveDomain) : Result Unit := do
  validateStreamId message.queryId
  validateHostname message.hostname
  let _ ← knownNonzeroEnum AddressFamily.tryFrom message.addressFamily "address_family"
  validateTimeout message.timeoutMs

def validateResolveResult (message : ResolveResult) : Result Unit := do
  validateStreamId message.queryId
  require (message.ipAddresses.length ≤ maxResolveAddresses) "resolve_addresses"
  let error ← knownEnum ErrorCode.tryFrom message.errorCode "resolve_error_code"
  if error = .unspecified then
    require (message.ipAddresses ≠ [] ∧ message.minimumTtlSeconds ≠ 0) "resolve_result"
    for address in message.ipAddresses do
      validateIpAddress address
  else
    require (message.ipAddresses = [] ∧ message.minimumTtlSeconds = 0) "resolve_result"

def validateRotateSession (message : RotateSession) : Result Unit := do
  exactLength message.rotationNonce 16 "rotation_nonce"
  let _ ← knownNonzeroEnum RotationReason.tryFrom message.reason "rotation_reason"
  validateDrainTimeout message.drainTimeoutMs

def validateSessionRotated (message : SessionRotated) : Result Unit := do
  exactLength message.rotationNonce 16 "rotation_nonce"
  let error ← knownEnum ErrorCode.tryFrom message.errorCode "rotation_error_code"
  if message.accepted then
    require (error = .unspecified ∧ message.replacementTransportRequired) "session_rotated"
  else
    require (error ≠ .unspecified ∧ !message.replacementTransportRequired) "session_rotated"

def validateError (message : Error) : Result Unit := do
  let _ ← knownNonzeroEnum ErrorCode.tryFrom message.code "error_code"
  let _ ← knownEnum RetryHint.tryFrom message.retryHint "retry_hint"
  require (¬ (message.fatal ∧ message.streamId ≠ 0)) "fatal_error_scope"
  if message.streamId ≠ 0 then validateStreamId message.streamId
  require (message.retryAfterMs ≤ maxTimeoutMs) "retry_after_ms"
  exactLength message.correlationId 16 "correlation_id"

def validateGoAway (message : GoAway) : Result Unit := do
  if message.lastAcceptedStreamId ≠ 0 then validateStreamId message.lastAcceptedStreamId
  let _ ← knownEnum ErrorCode.tryFrom message.code "go_away_code"
  validateDrainTimeout message.drainTimeoutMs

def validateBody : Body → Result Unit
  | .clientHello message => validateClientHello message
  | .serverHello message => validateServerHello message
  | .authenticate message => validateAuthenticate message
  | .authenticationResult message => validateAuthenticationResult message
  | .openTcpStream message => validateOpenTcp message
  | .tcpStreamOpened message => validateStreamOpened message
  | .tcpStreamRejected message => validateStreamRejected message
  | .data message => validateData message
  | .windowUpdate message => validateWindowUpdate message
  | .halfClose message => validateStreamId message.streamId
  | .closeStream message => validateCloseStream message
  | .resolveDomain message => validateResolveDomain message
  | .resolveResult message => validateResolveResult message
  | .rotateSession message => validateRotateSession message
  | .sessionRotated message => validateSessionRotated message
  | .ping message => boundedRange message.nonce 8 32 "ping_nonce"
  | .pong message => boundedRange message.nonce 8 32 "pong_nonce"
  | .error message => validateError message
  | .goAway message => validateGoAway message

def validateExtensions (enabled : Finset UInt32) : List UInt32 → Finset UInt32 → Result Unit
  | [], _ => pure ()
  | extension :: rest, seen =>
    if extension = 0 ∨ extension ∉ enabled ∨ extension ∈ seen then
      throw (.protocolViolation "unknown or duplicate critical extension")
    else validateExtensions enabled rest (insert extension seen)

def validateFrame (frame : GatewayFrame) (enabledCriticalExtensions : Finset UInt32) :
    Result Unit := do
  if frame.sequence = 0 then throw .invalidSequence
  require (frame.version.any fun version => version.major ≠ 0) "frame_version"
  validateExtensions enabledCriticalExtensions frame.criticalExtensionIds ∅
  match frame.body with
  | none => throw .missingBody
  | some body => validateBody body

end OnionRoute.GatewayProtocol
