import OnionRoute.Library.Trace
import OnionRoute.PacketEngine.FlowMachine

/-! The packet processor. Every public method is a function to a state and the emitted actions. -/

namespace OnionRoute.PacketEngine

open Library

def protectedState : ClientConnectionState → Bool
  | .connected | .rotating | .degraded => true
  | _ => false

def initialSequence (flowId : FlowId) : UInt32 :=
  0xa50f0000 ^^^ (flowId.value.toUInt32 * 0x9e3779b9)

structure PacketProcessor where
  config : EngineConfig
  flows : Table FlowKey FlowRecord
  ids : Table FlowId FlowKey
  pendingDns : PendingDns
  nextFlowId : UInt64
  nextDnsId : UInt64
  accepting : Bool
  suspendedAtMs : Option ℕ

namespace PacketProcessor

def new (config : EngineConfig) : Option PacketProcessor :=
  if config.valid then
    some {
      config
      flows := ∅
      ids := ∅
      pendingDns := ∅
      nextFlowId := 1
      nextDnsId := 1
      accepting := true
      suspendedAtMs := none }
  else none

abbrev Outcome := PacketProcessor × List EngineAction

def block (s : PacketProcessor) (flowId : Option FlowId) (reason : BlockReason) : Outcome :=
  (s, [.blockFlow flowId reason])

def rejectSyn (s : PacketProcessor) (segment : TcpSegment) (reason : BlockReason) : Outcome :=
  let packet := buildTcpPacket segment.destination segment.source segment.destinationPort
    segment.sourcePort 0 (segment.sequence + 1) .rstAck 0 []
  (s, [.sendSyntheticResponse packet, .blockFlow none reason])

def insertFlow (s : PacketProcessor) (flow : FlowRecord) : PacketProcessor :=
  { s with
    ids := s.ids.insert flow.flowId flow.key
    flows := s.flows.insert flow.key flow }

def removeFlow (s : PacketProcessor) (key : FlowKey) : PacketProcessor :=
  match s.flows.lookup key with
  | none => s
  | some flow =>
    { s with
      flows := s.flows.erase key
      ids := s.ids.erase flow.flowId
      pendingDns := s.pendingDns.retain fun _ target => target ≠ .tcp flow.flowId }

def putFlow (s : PacketProcessor) (key : FlowKey) (flow : FlowRecord) : PacketProcessor :=
  { s with flows := s.flows.modify key fun _ => flow }

/-- A flow found through the identifier table. The source unwraps the second lookup;
`Sound` keeps that from failing in every reachable state. -/
def flowOf (s : PacketProcessor) (flowId : FlowId) : Option (FlowKey × FlowRecord) :=
  match s.ids.lookup flowId with
  | none => none
  | some key => (s.flows.lookup key).map fun flow => (key, flow)

def failFlow (s : PacketProcessor) (flowId : FlowId) (reason : BlockReason) : Outcome :=
  match s.flowOf flowId with
  | none => (s, [])
  | some (key, flow) =>
    (s.removeFlow key, [.sendSyntheticResponse flow.rstPacket, .blockFlow (some flowId) reason,
      .closeProtectedStream flowId .both])

def failEach (s : PacketProcessor) : List (FlowId × BlockReason) → Outcome
  | [] => (s, [])
  | (flowId, reason) :: rest =>
    let (s, actions) := s.failFlow flowId reason
    let (s, more) := s.failEach rest
    (s, actions ++ more)

def allocateFlowId (s : PacketProcessor) : PacketProcessor × FlowId :=
  ({ s with nextFlowId := max (s.nextFlowId + 1) 1 }, ⟨s.nextFlowId⟩)

def allocateDnsId (s : PacketProcessor) : PacketProcessor × UInt64 :=
  ({ s with nextDnsId := SegmentProgress.nextQueryId s.nextDnsId }, s.nextDnsId)

def processUdp (s : PacketProcessor) (datagram : UdpDatagram)
    (connectionState : ClientConnectionState) : Outcome :=
  if datagram.destinationPort = 53 then
    if !s.accepting then s.block none .shutdown
    else if !protectedState connectionState then s.block none .protectedPathUnavailable
    else if datagram.payload.isEmpty ∨ datagram.payload.length > maxDnsMessageBytes ∨
        s.pendingDns.size ≥ s.config.maxPendingDns then
      s.block none .backpressure
    else
      let (s, queryId) := s.allocateDnsId
      let (client, resolver) := endpoints datagram.source datagram.sourcePort datagram.destination
        datagram.destinationPort
      let target := DnsResponseTarget.udp client resolver
      ({ s with pendingDns := s.pendingDns.insert queryId target },
        [.resolveDns ⟨queryId, datagram.payload⟩ target])
  else if datagram.destinationPort = 443 then s.block none .quicBlocked
  else s.block none .udpBlocked

def dnsFlow (config : EngineConfig) (flowId : FlowId) (key : FlowKey) (segment : TcpSegment)
    (platform : PlatformMetadata) : FlowRecord where
  snapshot := {
    flowId
    source := key.source
    destination := key.destination
    hostname := none
    application := platform.application
    isolationKey := ⟨Vector.replicate 32 0⟩
    anonymityProfile := .standard
    gatewayId := none
    timestamps := ⟨platform.monotonicMs, platform.monotonicMs, none⟩
    state := .synAckSent
    limits := config.buffers
    queuedToGateway := 0
    queuedToApplication := 0 }
  key := key
  clientNext := segment.sequence + 1
  serverNext := initialSequence flowId + 1
  dnsTcp := true
  dnsBuffer := []
  outstandingToApplication := none

def openDnsTcp (s : PacketProcessor) (key : FlowKey) (segment : TcpSegment)
    (platform : PlatformMetadata) (connectionState : ClientConnectionState) : Outcome :=
  if !s.accepting then s.rejectSyn segment .shutdown
  else if !protectedState connectionState then s.rejectSyn segment .protectedPathUnavailable
  else if s.flows.size ≥ s.config.maxFlows then s.rejectSyn segment .backpressure
  else
    let (s, flowId) := s.allocateFlowId
    let flow := dnsFlow s.config flowId key segment platform
    let response := responseFromValues flow (initialSequence flowId) flow.clientNext .synAck
      s.config.receiveWindow []
    (s.insertFlow flow, [.sendSyntheticResponse response])

def tcpFlow (config : EngineConfig) (flowId : FlowId) (key : FlowKey) (segment : TcpSegment)
    (platform : PlatformMetadata) (route : ProtectedRoute) : FlowRecord where
  snapshot := {
    flowId
    source := key.source
    destination := key.destination
    hostname := route.hostname
    application := platform.application
    isolationKey := route.isolationKey
    anonymityProfile := route.anonymityProfile
    gatewayId := route.gatewayId
    timestamps := ⟨platform.monotonicMs, platform.monotonicMs, some platform.monotonicMs⟩
    state := .connecting
    limits := config.buffers
    queuedToGateway := 0
    queuedToApplication := 0 }
  key := key
  clientNext := segment.sequence + 1
  serverNext := initialSequence flowId + 1
  dnsTcp := false
  dnsBuffer := []
  outstandingToApplication := none

def openTcp (s : PacketProcessor) (key : FlowKey) (segment : TcpSegment)
    (input : PacketEngineInput) : Outcome :=
  if !s.accepting then s.rejectSyn segment .shutdown
  else if !protectedState input.connectionState then
    s.rejectSyn segment .protectedPathUnavailable
  else match input.route with
    | none => s.rejectSyn segment .policyDenied
    | some route =>
      match route.decision.action with
      | .block => s.rejectSyn segment .policyDenied
      | .bypass => s.rejectSyn segment .directFallbackForbidden
      | .tunnel =>
        if s.flows.size ≥ s.config.maxFlows then
          let (s, actions) := s.rejectSyn segment .backpressure
          (s, actions ++ [.recordDiagnostic .flowLimit none])
        else
          let (s, flowId) := s.allocateFlowId
          let request : TcpFlowRequest := {
            flowId
            host := (route.hostname.map TcpHost.hostname).getD (.ip (.v4 segment.destination))
            port := segment.destinationPort
            application := input.platform.application }
          (s.insertFlow (tcpFlow s.config flowId key segment input.platform route),
            [.openProtectedStream request route.isolationKey route.anonymityProfile
              route.gatewayId])

def processExistingTcp (s : PacketProcessor) (key : FlowKey) (flow : FlowRecord)
    (segment : TcpSegment) (now : ℕ) : Outcome :=
  let p := flow.receiveSegment s.config s.pendingDns s.nextDnsId segment now
  let s := { s.putFlow key p.flow with pendingDns := p.pendingDns, nextDnsId := p.nextDnsId }
  (if p.remove then s.removeFlow key else s, p.actions)

def resetByKey (s : PacketProcessor) (key : FlowKey) : Outcome :=
  match s.flows.lookup key with
  | none => (s, [])
  | some flow => (s.removeFlow key, [flow.close .both])

def processTcp (s : PacketProcessor) (segment : TcpSegment) (input : PacketEngineInput) :
    Outcome :=
  let key := segment.key
  if segment.flags.syn &&
      (segment.flags.fin || segment.flags.rst || !segment.payload.isEmpty) then
    match s.flows.lookup key with
    | some flow => s.failFlow flow.flowId .malformedPacket
    | none => s.rejectSyn segment .malformedPacket
  else if segment.flags.rst then s.resetByKey key
  else match s.flows.lookup key with
    | none =>
      if !segment.flags.syn || segment.flags.ack then (s, [.recordDiagnostic .unknownFlow none])
      else if segment.destinationPort = 53 then
        s.openDnsTcp key segment input.platform input.connectionState
      else s.openTcp key segment input
    | some flow =>
      if !protectedState input.connectionState then
        s.failFlow flow.flowId .protectedPathUnavailable
      else s.processExistingTcp key flow segment input.platform.monotonicMs

def process (s : PacketProcessor) (input : PacketEngineInput) : Outcome :=
  match classify input.packet with
  | .error _ =>
    (s, [.blockFlow none .malformedPacket, .recordDiagnostic .malformedPacket none])
  | .ok .ipv6 => s.block none .ipv6Blocked
  | .ok (.udp datagram) => s.processUdp datagram input.connectionState
  | .ok (.tcp segment) => s.processTcp segment input
  | .ok (.icmp _) => s.block none .icmpUnsupported
  | .ok (.other _) => s.block none .unsupportedTransport

def protectedStreamOpened (s : PacketProcessor) (flowId : FlowId) (now : ℕ) : Outcome :=
  match s.flowOf flowId with
  | none => (s, [.recordDiagnostic .unknownFlow (some flowId)])
  | some (key, flow) =>
    let (flow, actions) := flow.opened s.config now
    (s.putFlow key flow, actions)

def acknowledgeForwarded (s : PacketProcessor) (flowId : FlowId) (bytes now : ℕ) : Outcome :=
  match s.flowOf flowId with
  | none => (s, [])
  | some (key, flow) =>
    let (flow, actions) := flow.acknowledged s.config bytes now
    let s := s.putFlow key flow
    (if flow.finished then s.removeFlow key else s, actions)

def protectedPayload (s : PacketProcessor) (flowId : FlowId) (payload : Bytes) (now : ℕ) :
    Outcome :=
  match s.flowOf flowId with
  | none => (s, [.recordDiagnostic .unknownFlow (some flowId)])
  | some (key, flow) =>
    if payload.isEmpty then (s, [])
    else if !flow.canAccept payload.length then s.failFlow flowId .backpressure
    else
      let (flow, actions) := flow.sendPayload s.config payload now
      (s.putFlow key flow, actions)

def protectedStreamClosed (s : PacketProcessor) (flowId : FlowId) (now : ℕ) : Outcome :=
  match s.flowOf flowId with
  | none => (s, [])
  | some (key, flow) =>
    if !flow.writable then s.failFlow flowId .downstreamFailure
    else
      let (flow, actions) := flow.sendFin s.config now
      (s.putFlow key flow, actions)

def framed (wire : Bytes) : Bytes :=
  beBytes16 (UInt16.ofNat wire.length) ++ wire

def completeDns (s : PacketProcessor) (queryId : UInt64) (wire : Bytes) (now : ℕ) : Outcome :=
  match s.pendingDns.lookup queryId with
  | none => (s, [])
  | some target =>
    let s := { s with pendingDns := s.pendingDns.erase queryId }
    if wire.isEmpty ∨ wire.length > maxDnsMessageBytes then
      match target with
      | .tcp flowId => s.failFlow flowId .downstreamFailure
      | .udp _ _ => s.block none .downstreamFailure
    else match target with
      | .udp client resolver =>
        if wire.length > 65507 then s.block none .backpressure
        else
          (s, [.sendSyntheticResponse (buildUdpPacket resolver.address client.address resolver.port
            client.port wire)])
      | .tcp flowId =>
        match s.flowOf flowId with
        | none => (s, [])
        | some (key, flow) =>
          if !flow.canAccept (framed wire).length then s.failFlow flowId .backpressure
          else
            let (flow, actions) := flow.sendPayload s.config (framed wire) now
            (s.putFlow key flow, actions)

def tick (s : PacketProcessor) (now : ℕ) : Outcome :=
  if s.suspendedAtMs.isSome then (s, [])
  else
    let expired := s.flows.values.filterMap fun flow =>
      (flow.tickExpiry s.config now).map fun reason => (flow.flowId, reason)
    let retransmissions := s.flows.values.flatMap (FlowRecord.tickActions s.config now)
    let swept := { s with flows := s.flows.mapValues (FlowRecord.afterTick s.config now) }
    let (s, actions) := swept.failEach expired
    (s, retransmissions ++ actions)

def suspend (s : PacketProcessor) (now : ℕ) : PacketProcessor :=
  { s with suspendedAtMs := s.suspendedAtMs.or (some now) }

def failIds (s : PacketProcessor) (reason : BlockReason) : Outcome :=
  s.failEach (s.ids.keys.map fun flowId => (flowId, reason))

def resume (s : PacketProcessor) (now : ℕ) (protectedPathHealthy : Bool) : Outcome :=
  match s.suspendedAtMs with
  | none => (s, [])
  | some suspendedAt =>
    let s := { s with suspendedAtMs := none }
    if !protectedPathHealthy then
      let (s, actions) := s.failIds .protectedPathUnavailable
      (s, .recordDiagnostic .resumePathInvalid none :: actions)
    else
      ({ s with flows := s.flows.mapValues (FlowRecord.postpone (now - suspendedAt)) }, [])

def shutdown (s : PacketProcessor) : Outcome :=
  let (s, actions) := { s with accepting := false, pendingDns := ∅ }.failIds .shutdown
  (s, .recordDiagnostic .shutdown none :: actions)

def failAll (s : PacketProcessor) (reason : BlockReason) : Outcome :=
  { s with pendingDns := ∅ }.failIds reason

end PacketProcessor

inductive Call
  | process (input : PacketEngineInput)
  | protectedStreamOpened (flowId : FlowId) (now : ℕ)
  | acknowledgeForwarded (flowId : FlowId) (bytes now : ℕ)
  | protectedPayload (flowId : FlowId) (payload : Bytes) (now : ℕ)
  | protectedStreamClosed (flowId : FlowId) (now : ℕ)
  | failFlow (flowId : FlowId) (reason : BlockReason)
  | completeDns (queryId : UInt64) (wire : Bytes) (now : ℕ)
  | tick (now : ℕ)
  | suspend (now : ℕ)
  | resume (now : ℕ) (protectedPathHealthy : Bool)
  | shutdown
  | failAll (reason : BlockReason)

namespace PacketProcessor

def perform (s : PacketProcessor) : Call → Outcome
  | .process input => s.process input
  | .protectedStreamOpened flowId now => s.protectedStreamOpened flowId now
  | .acknowledgeForwarded flowId bytes now => s.acknowledgeForwarded flowId bytes now
  | .protectedPayload flowId payload now => s.protectedPayload flowId payload now
  | .protectedStreamClosed flowId now => s.protectedStreamClosed flowId now
  | .failFlow flowId reason => s.failFlow flowId reason
  | .completeDns queryId wire now => s.completeDns queryId wire now
  | .tick now => s.tick now
  | .suspend now => (s.suspend now, [])
  | .resume now healthy => s.resume now healthy
  | .shutdown => s.shutdown
  | .failAll reason => s.failAll reason

/-- A hash map promises no order for its iterators, so a call may find its tables in any of them. -/
structure Rehashed (s t : PacketProcessor) : Prop where
  config : t.config = s.config
  flows : t.flows.entries.Perm s.flows.entries
  ids : t.ids.entries.Perm s.ids.entries
  pendingDns : t.pendingDns.entries.Perm s.pendingDns.entries
  nextFlowId : t.nextFlowId = s.nextFlowId
  nextDnsId : t.nextDnsId = s.nextDnsId
  accepting : t.accepting = s.accepting
  suspendedAtMs : t.suspendedAtMs = s.suspendedAtMs

end PacketProcessor

structure Event where
  before : PacketProcessor
  call : Call
  actions : List EngineAction
  after : PacketProcessor

def Step (s : PacketProcessor) (e : Event) (t : PacketProcessor) : Prop :=
  s.Rehashed e.before ∧ e.before.perform e.call = (e.after, e.actions) ∧ e.after = t

def Run (config : EngineConfig) (events : List Event) (s : PacketProcessor) : Prop :=
  ∃ s₀, PacketProcessor.new config = some s₀ ∧ Trace Step s₀ events s

end OnionRoute.PacketEngine
