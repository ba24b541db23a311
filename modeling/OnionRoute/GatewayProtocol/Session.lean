import OnionRoute.GatewayProtocol.Flow
import OnionRoute.GatewayProtocol.Scheduler

/-! The session state machine. A method that fails keeps the state it had reached. `receive` takes
the frame that is read, and `flush_one` returns the frame to write. -/

namespace OnionRoute.GatewayProtocol

open Library

def frameAccountingOverhead : ℕ := 128

inductive PeerRole
  | client
  | server
  deriving DecidableEq

inductive SessionPhase
  | awaitingServerHello
  | awaitingClientHello
  | awaitingAuthentication
  | awaitingAuthenticationResult
  | active
  | draining
  | closed
  deriving DecidableEq

structure NegotiatedParameters where
  selectedVersion : ProtocolVersion
  sessionId : Bytes
  maximumFrameSize : ℕ
  peerConnectionReceiveWindow : UInt32
  localConnectionReceiveWindow : UInt32
  maximumConcurrentStreams : ℕ
  enabledCapabilities : List String
  idleStreamTimeout : ℕ
  nextPhase : SessionPhase

structure Session where
  localRole : PeerRole
  phase : SessionPhase
  limits : ProtocolLimits
  maximumFrameSize : ℕ
  outboundVersion : ProtocolVersion
  selectedVersion : Option ProtocolVersion
  sessionId : Bytes
  nextSendSequence : ℕ
  nextReceiveSequence : ℕ
  enabledCriticalExtensions : Finset UInt32
  enabledCapabilities : List String
  scheduler : FairScheduler
  flow : Option FlowController
  localResolves : Finset UInt64
  remoteResolves : Finset UInt64
  maximumSeenLocalQueryId : UInt64
  maximumSeenRemoteQueryId : UInt64

abbrev SessionM := EStateM ProtocolError Session

def accountedBodySize (body : Body) : Result ℕ := do
  let frame : GatewayFrame :=
    { sequence := u64Max
      version := some ⟨4294967295, 4294967295⟩
      criticalExtensionIds := []
      sessionId := List.replicate 16 0
      body := some body }
  validateFrame frame ∅
  if frame.encodedLen + frameAccountingOverhead > u64Max then throw .integerOverflow
  pure (frame.encodedLen + frameAccountingOverhead)

def validateMaximum (maximumFrameSize : ℕ) : Result Unit :=
  require (maximumFrameSize ≠ 0 ∧ maximumFrameSize ≤ absoluteMaxFrameSize) "maximum_frame_size"

/-- What `write_frame` and `read_frame` check of a frame; its bytes are left to the encoder. -/
def checkFrameSize (frame : GatewayFrame) (maximumFrameSize : ℕ) : Result Unit := do
  validateMaximum maximumFrameSize
  if frame.encodedLen = 0 then throw .emptyFrame
  if frame.encodedLen > maximumFrameSize then
    throw (.frameTooLarge frame.encodedLen maximumFrameSize)

namespace Session

def new (localRole : PeerRole) (phase : SessionPhase) (limits : ProtocolLimits)
    (initialVersion : ProtocolVersion) : Result Session := do
  limits.validate
  require (initialVersion.major ≠ 0) "initial_version"
  let scheduler ← FairScheduler.new limits.maximumQueuedBytes limits.maximumQueuedBytesPerStream
    limits.maximumControlFrames
  pure {
    localRole
    phase
    limits
    maximumFrameSize := limits.maximumFrameSize
    outboundVersion := initialVersion
    selectedVersion := none
    sessionId := []
    nextSendSequence := 1
    nextReceiveSequence := 1
    enabledCriticalExtensions := ∅
    enabledCapabilities := []
    scheduler
    flow := none
    localResolves := ∅
    remoteResolves := ∅
    maximumSeenLocalQueryId := 0
    maximumSeenRemoteQueryId := 0 }

def newClient (limits : ProtocolLimits) (initialVersion : ProtocolVersion) : Result Session :=
  new .client .awaitingServerHello limits initialVersion

def newServer (limits : ProtocolLimits) (initialVersion : ProtocolVersion) : Result Session :=
  new .server .awaitingClientHello limits initialVersion

def check {α : Type} (result : Session → Result α) : SessionM α := fun s =>
  match result s with
  | .ok a => .ok a s
  | .error e => .error e s

def schedule (step : FairScheduler → Result FairScheduler) : SessionM Unit := fun s =>
  match step s.scheduler with
  | .ok scheduler => .ok () { s with scheduler }
  | .error e => .error e s

def flowMut (step : FlowController → Result FlowController) : SessionM Unit := fun s =>
  match s.flow with
  | none => .error .invalidSession s
  | some flow =>
    match step flow with
    | .ok flow => .ok () { s with flow := some flow }
    | .error e => .error e s

def configureNegotiated (parameters : NegotiatedParameters) : SessionM Unit := do
  if parameters.selectedVersion.major = 0 ∨ parameters.sessionId.length ≠ 16 then
    throw .invalidSession
  let s ← get
  check fun _ => require (parameters.maximumFrameSize ≠ 0 ∧
    parameters.maximumFrameSize ≤ s.limits.maximumFrameSize) "negotiated_frame_size"
  let flow ← check fun _ => FlowController.new parameters.peerConnectionReceiveWindow
    parameters.localConnectionReceiveWindow
    (min parameters.maximumConcurrentStreams s.limits.maximumConcurrentStreams)
  check fun _ => validateCapabilities parameters.enabledCapabilities
  check fun _ => require (parameters.idleStreamTimeout ≠ 0) "idle_stream_timeout"
  set { s with
    outboundVersion := parameters.selectedVersion
    selectedVersion := some parameters.selectedVersion
    sessionId := parameters.sessionId
    maximumFrameSize := parameters.maximumFrameSize
    enabledCapabilities := parameters.enabledCapabilities
    limits := { s.limits with idleStreamTimeout := parameters.idleStreamTimeout }
    flow := some flow
    phase := parameters.nextPhase }

def markActive : SessionM Unit := do
  let s ← get
  if s.phase = .awaitingAuthentication ∨ s.phase = .awaitingAuthenticationResult then
    set { s with phase := .active }
  else throw (.protocolViolation "invalid active transition")

def setGrantedCapabilities (granted : List String) : SessionM Unit := do
  check fun _ => validateCapabilities granted
  let s ← get
  if ¬ granted.Nodup ∨ ∃ capability ∈ granted, capability ∉ s.enabledCapabilities then
    throw (.protocolViolation "authentication granted an unnegotiated capability")
  set { s with enabledCapabilities := granted }

def requireActiveClient : SessionM Unit := check fun s =>
  if s.phase ≠ .active ∨ s.localRole ≠ .client then throw .closed else pure ()

def requireActiveServer : SessionM Unit := check fun s =>
  if s.phase ≠ .active ∨ s.localRole ≠ .server then throw .closed else pure ()

def requireActiveOrDraining : SessionM Unit := check fun s =>
  if s.phase ≠ .active ∧ s.phase ≠ .draining then throw .closed else pure ()

def requireCapability (capability : String) : SessionM Unit := check fun s =>
  if capability ∉ s.enabledCapabilities then
    throw (.protocolViolation "capability was not negotiated and granted")
  else pure ()

def queueControlBody (body : Body) : SessionM Unit := do
  let size ← check fun _ => accountedBodySize body
  schedule (FairScheduler.enqueueControl ⟨body, size⟩)

def queueHandshake (body : Body) : SessionM Unit := do
  let s ← get
  if s.phase = .awaitingServerHello ∨ s.phase = .awaitingClientHello ∨
      s.phase = .awaitingAuthentication ∨ s.phase = .awaitingAuthenticationResult then
    queueControlBody body
  else throw (.protocolViolation "handshake already complete")

def queueWithFlow (body : Body) (step : FlowController → Result FlowController) : SessionM Unit := do
  let size ← check fun _ => accountedBodySize body
  check fun s => s.scheduler.canEnqueueControl size
  flowMut step
  schedule (FairScheduler.enqueueControl ⟨body, size⟩)

def openTcp (message : OpenTcpStream) (now : ℕ) : SessionM Unit := do
  requireActiveClient
  requireCapability tcpConnectV1
  queueWithFlow (.openTcpStream message)
    (FlowController.openLocal message.streamId message.initialReceiveWindow now)

def acceptTcp (streamId : UInt64) (initialReceiveWindow : UInt32) (now : ℕ) : SessionM Unit := do
  requireActiveServer
  requireCapability tcpConnectV1
  queueWithFlow (.tcpStreamOpened ⟨streamId, initialReceiveWindow⟩)
    (FlowController.acceptRemoteOpen streamId initialReceiveWindow now)

def rejectTcp (message : TcpStreamRejected) : SessionM Unit := do
  requireActiveServer
  requireCapability tcpConnectV1
  queueWithFlow (.tcpStreamRejected message) (FlowController.rejectOrClose message.streamId)

def tryQueueData (streamId : UInt64) (payload : Bytes) (now : ℕ) : SessionM ℕ := do
  requireActiveOrDraining
  requireCapability tcpConnectV1
  check fun _ => validateStreamId streamId
  check fun _ => require (payload ≠ []) "data_payload"
  let consumed := min payload.length maxDataPayload
  let body := Body.data ⟨streamId, payload.take consumed⟩
  let accounted ← check fun _ => accountedBodySize body
  check fun s => s.scheduler.canEnqueueStream streamId accounted
  flowMut (FlowController.debitSend streamId consumed now)
  schedule (FairScheduler.enqueueStream streamId ⟨body, accounted⟩)
  pure consumed

def grantReceiveCredit (streamId : UInt64) (credit : UInt32) (now : ℕ) : SessionM Unit := do
  requireActiveOrDraining
  requireCapability flowControlV1
  queueWithFlow (.windowUpdate ⟨streamId, credit⟩)
    (FlowController.grantReceiveCredit streamId credit now)

def halfClose (streamId : UInt64) (now : ℕ) : SessionM Unit := do
  requireActiveOrDraining
  requireCapability tcpConnectV1
  queueWithFlow (.halfClose ⟨streamId⟩) (FlowController.localHalfClose streamId now)

def cancelStream (streamId : UInt64) : SessionM Unit :=
  schedule fun scheduler => pure (scheduler.cancelStream streamId)

def closeStream (streamId : UInt64) (code : CloseCode) : SessionM Unit := do
  requireActiveOrDraining
  requireCapability tcpConnectV1
  check fun _ => require (code ≠ .unspecified) "close_code"
  let body := Body.closeStream ⟨streamId, code.toInt32⟩
  let size ← check fun _ => accountedBodySize body
  check fun s => s.scheduler.canEnqueueControl size
  flowMut (FlowController.rejectOrClose streamId)
  cancelStream streamId
  schedule (FairScheduler.enqueueControl ⟨body, size⟩)

def resolve (message : ResolveDomain) : SessionM Unit := do
  requireActiveClient
  requireCapability resolveDomainV1
  check fun s =>
    if message.queryId ≤ s.maximumSeenLocalQueryId ∨
        s.localResolves.card ≥ s.limits.maximumOutstandingResolves then throw .invalidStreamId
    else pure ()
  let body := Body.resolveDomain message
  let size ← check fun _ => accountedBodySize body
  check fun s => s.scheduler.canEnqueueControl size
  modify fun s => { s with
    maximumSeenLocalQueryId := message.queryId
    localResolves := insert message.queryId s.localResolves }
  schedule (FairScheduler.enqueueControl ⟨body, size⟩)

def resolveResult (message : ResolveResult) : SessionM Unit := do
  requireActiveServer
  requireCapability resolveDomainV1
  check fun s =>
    if message.queryId ∉ s.remoteResolves then throw .invalidStreamId else pure ()
  let body := Body.resolveResult message
  let size ← check fun _ => accountedBodySize body
  check fun s => s.scheduler.canEnqueueControl size
  modify fun s => { s with remoteResolves := s.remoteResolves.erase message.queryId }
  schedule (FairScheduler.enqueueControl ⟨body, size⟩)

def queueControl (body : Body) : SessionM Unit := do
  requireActiveOrDraining
  match body with
  | .rotateSession _ | .sessionRotated _ =>
    requireCapability sessionRotationV1
    queueControlBody body
  | .ping _ | .pong _ | .error _ => queueControlBody body
  | _ => throw (.protocolViolation "message requires a typed session method")

def beginGoAway (message : GoAway) : SessionM Unit := do
  requireActiveOrDraining
  queueControlBody (.goAway message)
  modify fun s => { s with phase := .draining }

def closeEach : List UInt64 → SessionM Unit
  | [] => pure ()
  | streamId :: rest => do
    closeStream streamId .timeout
    closeEach rest

def expireIdleStreams (now : ℕ) : SessionM (List UInt64) := do
  let s ← get
  let expired := s.flow.elim [] fun flow => flow.expireIdle now s.limits.idleStreamTimeout
  closeEach expired
  pure expired

def closeOnError {α : Type} (method : SessionM α) : SessionM α := fun s =>
  match method s with
  | .ok a s => .ok a s
  | .error e s => .error e { s with phase := .closed }

def popNext : SessionM (Option OutboundItem) := fun s =>
  .ok s.scheduler.popNext.1 { s with scheduler := s.scheduler.popNext.2 }

def frameOf (s : Session) (body : Body) : GatewayFrame where
  sequence := s.nextSendSequence
  version := some s.outboundVersion
  criticalExtensionIds := []
  sessionId := s.sessionId
  body := some body

def flushOneInner : SessionM (Option GatewayFrame) := do
  match ← popNext with
  | none => pure none
  | some item =>
    let s ← get
    if s.nextSendSequence + 1 > u64Max then throw .integerOverflow
    set { s with nextSendSequence := s.nextSendSequence + 1 }
    let frame := s.frameOf item.body
    check fun s => validateFrame frame s.enabledCriticalExtensions
    check fun s => checkFrameSize frame s.maximumFrameSize
    pure (some frame)

def flushOne : SessionM (Option GatewayFrame) := do
  check fun s => if s.phase = .closed then throw .closed else pure ()
  closeOnError flushOneInner

def validateFrameContext (frame : GatewayFrame) (s : Session) : Result Unit :=
  match s.phase with
  | .awaitingClientHello =>
    match frame.body with
    | some (.clientHello hello) =>
      if frame.sessionId = [] ∧
          (hello.supportedVersions.bind ProtocolVersionRange.maximum) = frame.version then pure ()
      else throw .invalidSession
    | _ => throw .invalidSession
  | .awaitingServerHello =>
    match frame.body with
    | some (.serverHello hello) =>
      if frame.sessionId = hello.ephemeralSessionId ∧ hello.selectedVersion = frame.version then
        pure ()
      else throw .invalidSession
    | some (.error _) | some (.goAway _) =>
      if frame.sessionId = [] then pure () else throw .invalidSession
    | _ => throw .invalidSession
  | .awaitingAuthentication | .awaitingAuthenticationResult | .active | .draining => do
    if frame.sessionId ≠ s.sessionId then throw .invalidSession
    if s.selectedVersion = none then throw .invalidSession
    if frame.version ≠ s.selectedVersion then
      throw (.protocolViolation "version changed after negotiation")
  | .closed => throw .closed

def applyActiveInbound (body : Body) (now : ℕ) : SessionM Unit := do
  match body with
  | .openTcpStream message =>
    requireCapability tcpConnectV1
    check fun s =>
      if s.localRole ≠ .server ∨ s.phase = .draining then
        throw (.protocolViolation "new stream not permitted")
      else pure ()
    flowMut (FlowController.receiveOpen message.streamId message.initialReceiveWindow now)
  | .tcpStreamOpened message =>
    requireCapability tcpConnectV1
    check fun s =>
      if s.localRole ≠ .client then throw (.protocolViolation "unexpected stream opened")
      else pure ()
    flowMut (FlowController.confirmLocalOpen message.streamId message.initialReceiveWindow now)
  | .tcpStreamRejected message =>
    requireCapability tcpConnectV1
    check fun s =>
      if s.localRole ≠ .client then throw (.protocolViolation "unexpected stream rejected")
      else pure ()
    flowMut (FlowController.rejectOrClose message.streamId)
  | .data message =>
    requireCapability tcpConnectV1
    flowMut (FlowController.debitReceive message.streamId message.payload.length now)
  | .windowUpdate message =>
    requireCapability flowControlV1
    flowMut (FlowController.receiveWindowUpdate message.streamId message.credit now)
  | .halfClose message =>
    requireCapability tcpConnectV1
    flowMut (FlowController.receiveHalfClose message.streamId now)
  | .closeStream message =>
    requireCapability tcpConnectV1
    cancelStream message.streamId
    flowMut (FlowController.rejectOrClose message.streamId)
  | .resolveDomain message =>
    requireCapability resolveDomainV1
    check fun s =>
      if s.localRole ≠ .server ∨ s.phase = .draining then
        throw (.protocolViolation "resolve not permitted")
      else if message.queryId ≤ s.maximumSeenRemoteQueryId ∨
          s.remoteResolves.card ≥ s.limits.maximumOutstandingResolves then throw .invalidStreamId
      else pure ()
    modify fun s => { s with
      maximumSeenRemoteQueryId := message.queryId
      remoteResolves := insert message.queryId s.remoteResolves }
  | .resolveResult message =>
    requireCapability resolveDomainV1
    check fun s =>
      if s.localRole ≠ .client ∨ message.queryId ∉ s.localResolves then throw .invalidStreamId
      else pure ()
    modify fun s => { s with localResolves := s.localResolves.erase message.queryId }
  | .goAway _ => modify fun s => { s with phase := .draining }
  | .error message => if message.fatal then modify fun s => { s with phase := .closed }
  | .clientHello _ | .serverHello _ | .authenticate _ | .authenticationResult _ =>
    throw (.protocolViolation "handshake message after authentication")
  | .rotateSession _ | .sessionRotated _ => requireCapability sessionRotationV1
  | .ping _ | .pong _ => pure ()

def applyInbound (body : Body) (now : ℕ) : SessionM Unit := do
  let s ← get
  match s.phase, body with
  | .awaitingClientHello, .clientHello _ => pure ()
  | .awaitingClientHello, _ => throw (.protocolViolation "expected ClientHello")
  | .awaitingServerHello, .serverHello _ => pure ()
  | .awaitingServerHello, .error _ => pure ()
  | .awaitingServerHello, .goAway _ => pure ()
  | .awaitingServerHello, _ => throw (.protocolViolation "expected ServerHello")
  | .awaitingAuthentication, .authenticate _ => pure ()
  | .awaitingAuthentication, .error _ => pure ()
  | .awaitingAuthentication, .goAway _ => pure ()
  | .awaitingAuthentication, _ => throw (.protocolViolation "expected Authenticate")
  | .awaitingAuthenticationResult, .authenticationResult _ => pure ()
  | .awaitingAuthenticationResult, .error _ => pure ()
  | .awaitingAuthenticationResult, .goAway _ => pure ()
  | .awaitingAuthenticationResult, _ =>
    throw (.protocolViolation "expected AuthenticationResult")
  | .active, _ => applyActiveInbound body now
  | .draining, _ => applyActiveInbound body now
  | .closed, _ => throw .closed

def receiveInner (frame : GatewayFrame) (now : ℕ) : SessionM Body := do
  check fun s => if s.phase = .closed then throw .closed else pure ()
  check fun s => checkFrameSize frame s.maximumFrameSize
  check fun s => validateFrame frame s.enabledCriticalExtensions
  let s ← get
  if frame.sequence ≠ s.nextReceiveSequence then throw .invalidSequence
  if s.nextReceiveSequence + 1 > u64Max then throw .integerOverflow
  set { s with nextReceiveSequence := s.nextReceiveSequence + 1 }
  check fun s => s.validateFrameContext frame
  match frame.body with
  | none => throw .missingBody
  | some body =>
    applyInbound body now
    pure body

def receive (frame : GatewayFrame) (now : ℕ) : SessionM Body :=
  closeOnError (receiveInner frame now)

end Session

end OnionRoute.GatewayProtocol
