import OnionRoute.Library.Process
import OnionRoute.GatewayProtocol.Negotiation
import OnionRoute.GatewayProtocol.SchedulerOutcomes
import OnionRoute.GatewayProtocol.Session

/-! The two ends of the handshake as programs. The token scheme and the entropy source are
parameters. -/

namespace OnionRoute.GatewayProtocol

open Library

def ErrorCode.toInt32 : ErrorCode → Int32
  | .unspecified => 0
  | .protocolIncompatible => 1
  | .protocolViolation => 2
  | .messageTooLarge => 3
  | .authenticationFailed => 4
  | .policyDenied => 5
  | .resourceExhausted => 6
  | .unavailable => 7
  | .timeout => 8
  | .streamClosed => 9
  | .internal => 10
  | .unsupported => 11
  | .sessionRotating => 12

def AnonymityMode.toInt32 : AnonymityMode → Int32
  | .unspecified => 0
  | .standard => 1
  | .enhanced => 2
  | .maximum => 3
  | .directTor => 4

structure AuthenticationMaterial where
  anonymousCapabilityToken : Bytes
  proofOfPossession : Bytes

structure ClientConfig where
  supportedVersions : ProtocolVersionRange
  capabilities : List String
  anonymityMode : AnonymityMode
  desiredCountry : String
  limits : ProtocolLimits

structure AuthenticationDecision where
  accepted : Bool
  expiresAtUnixSeconds : Int64
  grantedCapabilities : List String

def AuthenticationDecision.reject : AuthenticationDecision where
  accepted := false
  expiresAtUnixSeconds := 0
  grantedCapabilities := []

structure ServerConfig where
  supportedVersions : ProtocolVersionRange
  supportedCapabilities : Finset String
  sessionTtlSeconds : UInt32
  limits : ProtocolLimits

structure Reference where
  session : Session
  grantedCapabilities : List String

structure ServerEntropy where
  correlationId : Option (Block 16)
  serverNonce : Option (Block 32)
  sessionId : Option (Block 16)

abbrev Peer (α : Type) := Process GatewayFrame ProtocolError α

def okOr {α : Type} (value : Option α) (e : ProtocolError) : Result α :=
  match value with
  | some a => pure a
  | none => throw e

namespace Session

def perform {α : Type} (method : SessionM α) (s : Session) : Result (α × Session) :=
  match method s with
  | .ok a t => pure (a, t)
  | .error e _ => throw e

def flushFor : ℕ → Session → Peer Session
  | 0, s => pure s
  | n + 1, s => do
    match ← s.perform flushOne with
    | (some frame, t) =>
      Process.write frame
      flushFor n t
    | (none, t) => pure t

-- One round more than there are frames in the queues.
def flushAll (s : Session) : Peer Session :=
  flushFor (s.scheduler.total (fun _ => 1) + 1) s

def send (body : Body) (s : Session) : Peer Session := do
  let ((), s) ← s.perform (queueHandshake body)
  s.flushAll

-- No stream exists yet, so the time of the call is not used.
def next (s : Session) : Peer (Body × Session) := do
  if s.phase = .closed then throw .closed
  let frame ← Process.read
  s.perform (receive frame 0)

end Session

namespace ClientConfig

def hello (config : ClientConfig) (clientNonce : Block 32) : ClientHello where
  supportedVersions := some config.supportedVersions
  clientCapabilities := config.capabilities
  anonymityMode := config.anonymityMode.toInt32
  desiredCountry := config.desiredCountry
  sessionNonce := clientNonce
  maximumFrameSize := UInt32.ofNat config.limits.maximumFrameSize
  initialConnectionReceiveWindow := config.limits.initialConnectionWindow
  initialStreamReceiveWindow := config.limits.initialStreamWindow

def parameters (config : ClientConfig) (serverHello : ServerHello) (selected : ProtocolVersion) :
    NegotiatedParameters where
  selectedVersion := selected
  sessionId := serverHello.ephemeralSessionId
  maximumFrameSize := min config.limits.maximumFrameSize serverHello.maximumFrameSize.toNat
  peerConnectionReceiveWindow := serverHello.initialConnectionReceiveWindow
  localConnectionReceiveWindow := config.limits.initialConnectionWindow
  maximumConcurrentStreams := serverHello.maximumConcurrentStreams.toNat
  enabledCapabilities := serverHello.enabledCapabilities.dedup
  idleStreamTimeout :=
    min config.limits.idleStreamTimeout (serverHello.idleStreamTimeoutMs.toNat * 1000000)
  nextPhase := .awaitingAuthenticationResult

end ClientConfig

def expectServerHello : Body → Result ServerHello
  | .serverHello hello => pure hello
  | .error error =>
    if error.code = ErrorCode.protocolIncompatible.toInt32 then throw .incompatibleVersion
    else throw (.protocolViolation "hello rejected")
  | .goAway _ => throw (.protocolViolation "hello rejected")
  | _ => throw (.protocolViolation "expected ServerHello")

def expectAuthenticationResult : Body → Result AuthenticationResult
  | .authenticationResult result => pure result
  | .error _ => throw .authenticationRejected
  | .goAway _ => throw .authenticationRejected
  | _ => throw (.protocolViolation "expected AuthenticationResult")

def connectInner (sha256 : Bytes → Block 32) (config : ClientConfig)
    (entropy : Option (Block 32)) (authenticator : Block 32 → Result AuthenticationMaterial) :
    Peer Reference := do
  config.limits.validate
  let initialVersion ← okOr config.supportedVersions.maximum (.invalidField "maximum_version")
  let clientNonce ← okOr entropy .entropyUnavailable
  let hello := config.hello clientNonce
  validateClientHello hello
  let session ← Session.newClient config.limits initialVersion
  let session ← session.send (.clientHello hello)
  let (body, session) ← session.next
  let serverHello ← expectServerHello body
  if serverHello.echoedClientNonce ≠ clientNonce then throw .invalidSession
  let serverRange ← okOr serverHello.supportedVersions (.invalidField "server_supported_versions")
  let selected ← okOr serverHello.selectedVersion (.invalidField "selected_version")
  verifyServerSelection config.supportedVersions serverRange selected
  verifyEnabledCapabilities config.capabilities serverHello.enabledCapabilities
  let ((), session) ← session.perform
    (Session.configureNegotiated (config.parameters serverHello selected))
  let binding ← sessionNonceBinding sha256 hello.sessionNonce serverHello.serverNonce
    serverHello.ephemeralSessionId selected
  let material ← authenticator binding
  let session ← session.send (.authenticate {
    anonymousCapabilityToken := material.anonymousCapabilityToken
    proofOfPossession := material.proofOfPossession
    sessionNonceBinding := binding })
  let (body, session) ← session.next
  let result ← expectAuthenticationResult body
  if ¬ result.accepted then throw .authenticationRejected
  verifyEnabledCapabilities serverHello.enabledCapabilities result.grantedCapabilities
  let ((), session) ← session.perform (Session.setGrantedCapabilities result.grantedCapabilities)
  let ((), session) ← session.perform Session.markActive
  pure ⟨session, result.grantedCapabilities⟩

namespace ServerConfig

def hello (config : ServerConfig) (clientHello : ClientHello) (selected : ProtocolVersion)
    (enabledCapabilities : List String) (serverNonce : Block 32) (sessionId : Block 16)
    (idleTimeoutMs : UInt32) : ServerHello where
  supportedVersions := some config.supportedVersions
  selectedVersion := some selected
  enabledCapabilities
  echoedClientNonce := clientHello.sessionNonce
  serverNonce
  ephemeralSessionId := sessionId
  maximumFrameSize :=
    UInt32.ofNat (min config.limits.maximumFrameSize clientHello.maximumFrameSize.toNat)
  maximumConcurrentStreams := UInt32.ofNat config.limits.maximumConcurrentStreams
  initialConnectionReceiveWindow := config.limits.initialConnectionWindow
  initialStreamReceiveWindow := config.limits.initialStreamWindow
  idleStreamTimeoutMs := idleTimeoutMs
  sessionTtlSeconds := config.sessionTtlSeconds

def parameters (config : ServerConfig) (clientHello : ClientHello) (selected : ProtocolVersion)
    (enabledCapabilities : List String) (sessionId : Block 16) : NegotiatedParameters where
  selectedVersion := selected
  sessionId := sessionId
  maximumFrameSize := min config.limits.maximumFrameSize clientHello.maximumFrameSize.toNat
  peerConnectionReceiveWindow := clientHello.initialConnectionReceiveWindow
  localConnectionReceiveWindow := config.limits.initialConnectionWindow
  maximumConcurrentStreams := config.limits.maximumConcurrentStreams
  enabledCapabilities := enabledCapabilities.dedup
  idleStreamTimeout := config.limits.idleStreamTimeout
  nextPhase := .awaitingAuthentication

end ServerConfig

def expectClientHello : Body → Result ClientHello
  | .clientHello hello => pure hello
  | _ => throw (.protocolViolation "expected ClientHello")

def expectAuthenticate : Body → Result Authenticate
  | .authenticate authenticate => pure authenticate
  | _ => throw (.protocolViolation "expected Authenticate")

def sendIncompatible (correlationId : Option (Block 16)) (s : Session) : Peer Session := do
  let correlationId ← okOr correlationId .entropyUnavailable
  s.send (.error {
    code := ErrorCode.protocolIncompatible.toInt32
    retryHint := 1 -- `RetryHint::Never`
    fatal := true
    streamId := 0
    retryAfterMs := 0
    correlationId })

def orIncompatible {α : Type} (result : Result α) (correlationId : Option (Block 16))
    (s : Session) : Peer α :=
  match result with
  | .ok a => pure a
  | .error e => do
    let _ ← sendIncompatible correlationId s
    throw e

def authenticationResult (decision : AuthenticationDecision) : AuthenticationResult where
  accepted := decision.accepted
  errorCode :=
    if decision.accepted then ErrorCode.unspecified.toInt32
    else ErrorCode.authenticationFailed.toInt32
  grantedCapabilities := decision.grantedCapabilities
  expiresAtUnixSeconds := decision.expiresAtUnixSeconds

def sendAuthenticationResult (decision : AuthenticationDecision) (s : Session) : Peer Session :=
  s.send (.authenticationResult (authenticationResult decision))

def checkBinding (authenticate : Authenticate) (expectedBinding : Block 32) (s : Session) :
    Peer Unit := do
  if authenticate.sessionNonceBinding ≠ expectedBinding then
    let _ ← sendAuthenticationResult .reject s
    throw .authenticationRejected

def asMillis (duration : ℕ) : Result UInt32 := do
  require (duration / 1000000 < UInt32.size) "idle_stream_timeout"
  pure (UInt32.ofNat (duration / 1000000))

def checkDecision (enabledCapabilities : List String) (decision : AuthenticationDecision) :
    Result Unit := do
  if decision.accepted then
    verifyEnabledCapabilities enabledCapabilities decision.grantedCapabilities
    require (0 < decision.expiresAtUnixSeconds) "authentication_expiry"

def acceptInner (sha256 : Bytes → Block 32) (config : ServerConfig) (entropy : ServerEntropy)
    (verifier : Bytes → Bytes → Block 32 → Result AuthenticationDecision) : Peer Reference := do
  config.limits.validate
  require (config.sessionTtlSeconds ≠ 0 ∧ config.sessionTtlSeconds ≤ maxSessionTtlSeconds)
    "session_ttl_seconds"
  let initialVersion ← okOr config.supportedVersions.maximum (.invalidField "maximum_version")
  let session ← Session.newServer config.limits initialVersion
  let (body, session) ← session.next
  let clientHello ← expectClientHello body
  let clientRange ← okOr clientHello.supportedVersions (.invalidField "client_supported_versions")
  let selected ← orIncompatible (selectVersion clientRange config.supportedVersions)
    entropy.correlationId session
  let enabledCapabilities ← orIncompatible
    (negotiateCapabilities clientHello.clientCapabilities config.supportedCapabilities)
    entropy.correlationId session
  let serverNonce ← okOr entropy.serverNonce .entropyUnavailable
  let sessionId ← okOr entropy.sessionId .entropyUnavailable
  let idleTimeoutMs ← asMillis config.limits.idleStreamTimeout
  let serverHello := config.hello clientHello selected enabledCapabilities serverNonce sessionId
    idleTimeoutMs
  let ((), session) ← session.perform (Session.configureNegotiated
    (config.parameters clientHello selected enabledCapabilities sessionId))
  let session ← session.send (.serverHello serverHello)
  let (body, session) ← session.next
  let authenticate ← expectAuthenticate body
  let expectedBinding ← sessionNonceBinding sha256 clientHello.sessionNonce serverNonce sessionId
    selected
  checkBinding authenticate expectedBinding session
  let decision ← verifier authenticate.anonymousCapabilityToken authenticate.proofOfPossession
    expectedBinding
  checkDecision enabledCapabilities decision
  let session ← sendAuthenticationResult decision session
  if ¬ decision.accepted then throw .authenticationRejected
  let ((), session) ← session.perform
    (Session.setGrantedCapabilities decision.grantedCapabilities)
  let ((), session) ← session.perform Session.markActive
  pure ⟨session, decision.grantedCapabilities⟩

end OnionRoute.GatewayProtocol
