import OnionRoute.Library.Table
import OnionRoute.PacketEngine.Flow

/-! The body of `process_existing_tcp` and the per-flow part of every callback. -/

namespace OnionRoute.PacketEngine

open Library

structure EngineConfig where
  maxFlows : ℕ
  maxPendingDns : ℕ
  buffers : BufferLimits
  connectionTimeoutMs : ℕ
  idleTimeoutMs : ℕ
  retransmitIntervalMs : ℕ
  maxRetransmissions : UInt8
  receiveWindow : UInt16
  deriving DecidableEq

namespace EngineConfig

def default : EngineConfig where
  maxFlows := 4096
  maxPendingDns := 256
  buffers := ⟨256 * 1024, 60 * 1024⟩
  connectionTimeoutMs := 30000
  idleTimeoutMs := 300000
  retransmitIntervalMs := 1000
  maxRetransmissions := 5
  receiveWindow := 32 * 1024

def valid (c : EngineConfig) : Bool :=
  c.maxFlows > 0 && c.maxPendingDns > 0 && c.buffers.toGatewayBytes > 0 &&
    c.buffers.toApplicationBytes > 0 && c.connectionTimeoutMs > 0 && c.idleTimeoutMs > 0 &&
    c.retransmitIntervalMs > 0 && c.maxRetransmissions > 0 && c.receiveWindow > 0 &&
    c.receiveWindow.toNat ≤ c.buffers.toGatewayBytes && c.buffers.toApplicationBytes ≤ 65535

end EngineConfig

def sequenceBefore (left right : UInt32) : Bool :=
  serialBefore left right

def responseFromValues (flow : FlowRecord) (sequence acknowledgement : UInt32) (flags : TcpFlags)
    (window : UInt16) (payload : Bytes) : Bytes :=
  buildTcpPacket flow.key.destination.address flow.key.source.address flow.key.destination.port
    flow.key.source.port sequence acknowledgement flags window payload

abbrev PendingDns := Table UInt64 DnsResponseTarget

def OutstandingSegment.renew (now : ℕ) (o : OutstandingSegment) : OutstandingSegment :=
  { o with retransmissions := o.retransmissions + 1, sentMs := now }

namespace FlowRecord

abbrev flowId (flow : FlowRecord) : FlowId := flow.snapshot.flowId

abbrev state (flow : FlowRecord) : TcpFlowState := flow.snapshot.state

def touch (now : ℕ) (flow : FlowRecord) : FlowRecord :=
  { flow with snapshot.timestamps.lastActivityMs := now }

def withState (state : TcpFlowState) (flow : FlowRecord) : FlowRecord :=
  { flow with snapshot.state := state }

def ackPacket (window : UInt16) (flow : FlowRecord) : Bytes :=
  responseFromValues flow flow.serverNext flow.clientNext .ackOnly window []

def synAckPacket (window : UInt16) (flow : FlowRecord) : Bytes :=
  responseFromValues flow (flow.serverNext - 1) flow.clientNext .synAck window []

def rstPacket (flow : FlowRecord) : Bytes :=
  responseFromValues flow flow.serverNext flow.clientNext .rstAck 0 []

def diagnostic (code : DiagnosticCode) (flow : FlowRecord) : EngineAction :=
  .recordDiagnostic code (some flow.flowId)

def blocked (reason : BlockReason) (flow : FlowRecord) : EngineAction :=
  .blockFlow (some flow.flowId) reason

def close (direction : CloseDirection) (flow : FlowRecord) : EngineAction :=
  .closeProtectedStream flow.flowId direction

def failActions (reason : BlockReason) (flow : FlowRecord) : List EngineAction :=
  [.sendSyntheticResponse flow.rstPacket, flow.blocked reason, flow.close .both]

end FlowRecord

/-- The locals of `process_existing_tcp`, with the DNS table it may extend. -/
structure SegmentProgress where
  flow : FlowRecord
  pendingDns : PendingDns
  nextDnsId : UInt64
  actions : List EngineAction := []
  resetAfter : Bool := false
  remove : Bool := false

namespace SegmentProgress

def emit (actions : List EngineAction) (p : SegmentProgress) : SegmentProgress :=
  { p with actions := p.actions ++ actions }

def resetWith (actions : List EngineAction) (p : SegmentProgress) : SegmentProgress :=
  { p with actions := p.actions ++ actions, resetAfter := true }

def receiveAcknowledgement (segment : TcpSegment) (p : SegmentProgress) : SegmentProgress :=
  if segment.flags.ack then
    if sequenceBefore p.flow.serverNext segment.acknowledgement then
      p.resetWith [p.flow.blocked .malformedPacket, p.flow.diagnostic .outOfOrder]
    else if segment.acknowledgement = p.flow.serverNext ∧
        p.flow.outstandingToApplication.isSome then
      { p with
        flow := { p.flow with outstandingToApplication := none, snapshot.queuedToApplication := 0 } }
    else p
  else p

def completesClose (segment : TcpSegment) (p : SegmentProgress) : Bool :=
  p.flow.state = .closing && segment.flags.ack &&
    segment.acknowledgement = p.flow.serverNext && p.flow.outstandingToApplication.isNone &&
    segment.payload.isEmpty && !segment.flags.fin

def receivePayload (config : EngineConfig) (segment : TcpSegment) (p : SegmentProgress) :
    SegmentProgress :=
  let flow := p.flow
  let length := segment.payload.length
  if segment.payload.isEmpty || p.resetAfter then p
  else if flow.state = .halfClosedLocal ∨ flow.state = .closing then
    p.resetWith [flow.blocked .malformedPacket, flow.diagnostic .outOfOrder]
  else if segment.sequence = flow.clientNext then
    if flow.dnsTcp then
      if saturatingAdd flow.dnsBuffer.length length > config.buffers.toGatewayBytes then
        p.resetWith [flow.blocked .backpressure, flow.diagnostic .bufferLimit]
      else
        let flow := { flow with
          dnsBuffer := flow.dnsBuffer ++ segment.payload
          clientNext := flow.clientNext + UInt32.ofNat length }
        { p with flow }.emit [.sendSyntheticResponse (flow.ackPacket config.receiveWindow)]
    else if saturatingAdd flow.snapshot.queuedToGateway length > config.buffers.toGatewayBytes then
      p.resetWith [flow.blocked .backpressure, flow.diagnostic .bufferLimit]
    else
      let flow := { flow with
        snapshot.queuedToGateway := flow.snapshot.queuedToGateway + length
        clientNext := flow.clientNext + UInt32.ofNat length }
      { p with flow }.emit [.forwardPayload flow.flowId segment.payload]
  else if sequenceBefore segment.sequence flow.clientNext then
    p.emit [flow.diagnostic .retransmission,
      .sendSyntheticResponse (flow.ackPacket config.receiveWindow)]
  else
    p.emit [flow.diagnostic .outOfOrder,
      .sendSyntheticResponse (flow.ackPacket config.receiveWindow)]

def nextQueryId (id : UInt64) : UInt64 :=
  max (id + 1) 1

def drainDns (maxPendingDns : ℕ) : ℕ → SegmentProgress → SegmentProgress
  | 0, p => p
  | rounds + 1, p =>
    let buffer := p.flow.dnsBuffer
    let messageLen := (u16At buffer 0).toNat
    if buffer.length < 2 then p
    else if messageLen = 0 ∨ messageLen > maxDnsMessageBytes then
      p.resetWith [p.flow.blocked .malformedPacket]
    else if buffer.length < messageLen + 2 then p
    else if p.pendingDns.size ≥ maxPendingDns then
      p.resetWith [p.flow.blocked .backpressure]
    else
      let wire := (buffer.take (messageLen + 2)).drop 2
      let target := DnsResponseTarget.tcp p.flow.flowId
      drainDns maxPendingDns rounds
        ({ p with
          flow := { p.flow with dnsBuffer := buffer.drop (messageLen + 2) }
          nextDnsId := nextQueryId p.nextDnsId
          pendingDns := p.pendingDns.insert p.nextDnsId target }.emit
            [.resolveDns ⟨p.nextDnsId, wire⟩ target])

def resolveQueries (config : EngineConfig) (p : SegmentProgress) : SegmentProgress :=
  if p.flow.dnsTcp && !p.resetAfter then
    drainDns config.maxPendingDns p.flow.dnsBuffer.length p
  else p

def receiveFin (config : EngineConfig) (segment : TcpSegment) (p : SegmentProgress) :
    SegmentProgress :=
  let finSequenceEnd := segment.sequence + UInt32.ofNat segment.payload.length
  if segment.flags.fin && !p.resetAfter then
    if finSequenceEnd = p.flow.clientNext then
      let flow : FlowRecord := { p.flow with clientNext := p.flow.clientNext + 1 }
      let acknowledgement := EngineAction.sendSyntheticResponse (flow.ackPacket config.receiveWindow)
      if flow.state = .halfClosedRemote then
        { p with flow := flow.withState .closing, remove := segment.payload.isEmpty }.emit
          (flow.close .both :: if segment.payload.isEmpty then [acknowledgement] else [])
      else
        { p with flow := flow.withState .halfClosedLocal }.emit
          ((if flow.dnsTcp then [] else [flow.close .write]) ++
            if flow.dnsTcp || segment.payload.isEmpty then [acknowledgement] else [])
    else if finSequenceEnd + 1 = p.flow.clientNext then
      p.emit [p.flow.diagnostic .retransmission,
        .sendSyntheticResponse (p.flow.ackPacket config.receiveWindow)]
    else p
  else p

def finish (p : SegmentProgress) : SegmentProgress :=
  if p.resetAfter then
    { p with remove := true }.emit [.sendSyntheticResponse p.flow.rstPacket, p.flow.close .both]
  else p

end SegmentProgress

namespace FlowRecord

def completesHandshake (segment : TcpSegment) (flow : FlowRecord) : Bool :=
  segment.flags.ack && segment.acknowledgement = flow.serverNext &&
    segment.sequence = flow.clientNext

def establish (flow : FlowRecord) : FlowRecord :=
  if flow.state = .synAckSent then
    { flow with snapshot.state := .established, snapshot.timestamps.connectStartedMs := none }
  else flow

def receiveData (config : EngineConfig) (segment : TcpSegment) (p : SegmentProgress) :
    SegmentProgress :=
  if (!segment.payload.isEmpty || segment.flags.fin) && !segment.flags.ack then
    p.emit [p.flow.diagnostic .outOfOrder,
      .sendSyntheticResponse (p.flow.ackPacket config.receiveWindow)]
  else
    let p := p.receiveAcknowledgement segment
    if p.completesClose segment then
      { p with remove := true }.emit [p.flow.close .both]
    else
      (((p.receivePayload config segment).resolveQueries config).receiveFin config segment).finish

def receiveSegment (config : EngineConfig) (pendingDns : PendingDns) (nextDnsId : UInt64)
    (segment : TcpSegment) (now : ℕ) (flow : FlowRecord) : SegmentProgress :=
  let flow := flow.touch now
  let p : SegmentProgress := { flow, pendingDns, nextDnsId }
  if segment.flags.syn then
    p.emit (flow.diagnostic .retransmission ::
      if flow.state = .synAckSent then
        [.sendSyntheticResponse (flow.synAckPacket config.receiveWindow)]
      else [])
  else if flow.state = .connecting then p
  else if flow.state = .synAckSent ∧ ¬ flow.completesHandshake segment then
    p.emit [flow.diagnostic .outOfOrder,
      .sendSyntheticResponse (flow.synAckPacket config.receiveWindow)]
  else receiveData config segment { p with flow := flow.establish }

def opened (config : EngineConfig) (now : ℕ) (flow : FlowRecord) :
    FlowRecord × List EngineAction :=
  if flow.state ≠ .connecting then (flow, [])
  else
    let flow := (flow.withState .synAckSent).touch now
    (flow, [.sendSyntheticResponse (flow.synAckPacket config.receiveWindow)])

/-- `acknowledge_forwarded` on its flow, before a finished flow is removed. -/
def acknowledged (config : EngineConfig) (bytes now : ℕ) (flow : FlowRecord) :
    FlowRecord × List EngineAction :=
  let flow := FlowRecord.touch now
    { flow with snapshot.queuedToGateway := flow.snapshot.queuedToGateway - bytes }
  (flow, [.sendSyntheticResponse (flow.ackPacket config.receiveWindow)])

def finished (flow : FlowRecord) : Bool :=
  flow.state = .closing && flow.outstandingToApplication.isNone

def writable (flow : FlowRecord) : Bool :=
  flow.outstandingToApplication.isNone &&
    (flow.state = .established || flow.state = .halfClosedLocal)

def canAccept (length : ℕ) (flow : FlowRecord) : Bool :=
  length ≤ flow.snapshot.limits.toApplicationBytes && flow.writable

def sendPayload (config : EngineConfig) (payload : Bytes) (now : ℕ) (flow : FlowRecord) :
    FlowRecord × List EngineAction :=
  let flags : TcpFlags := { TcpFlags.ackOnly with psh := true }
  let segment : OutstandingSegment :=
    { sequence := flow.serverNext, acknowledgement := flow.clientNext, flags, payload
      sentMs := now, retransmissions := 0 }
  let packet := responseFromValues flow flow.serverNext flow.clientNext flags config.receiveWindow
    payload
  (FlowRecord.touch now { flow with
      snapshot.queuedToApplication := payload.length
      serverNext := flow.serverNext + UInt32.ofNat payload.length
      outstandingToApplication := some segment },
    [.sendSyntheticResponse packet])

def sendFin (config : EngineConfig) (now : ℕ) (flow : FlowRecord) :
    FlowRecord × List EngineAction :=
  let state : TcpFlowState := if flow.state = .halfClosedLocal then .closing else .halfClosedRemote
  let segment : OutstandingSegment :=
    { sequence := flow.serverNext, acknowledgement := flow.clientNext, flags := .finAck
      payload := [], sentMs := now, retransmissions := 0 }
  let packet := responseFromValues flow flow.serverNext flow.clientNext .finAck
    config.receiveWindow []
  (FlowRecord.touch now { flow with
      snapshot.state := state
      serverNext := flow.serverNext + 1
      outstandingToApplication := some segment },
    [.sendSyntheticResponse packet])

def connectDeadlineStart (flow : FlowRecord) : ℕ :=
  flow.snapshot.timestamps.connectStartedMs.getD flow.snapshot.timestamps.createdMs

def deadline (config : EngineConfig) (now : ℕ) (flow : FlowRecord) : Option BlockReason :=
  if (flow.state = .connecting ∨ flow.state = .synAckSent) ∧
      now - flow.connectDeadlineStart ≥ config.connectionTimeoutMs then
    some .connectionTimeout
  else if now - flow.snapshot.timestamps.lastActivityMs ≥ config.idleTimeoutMs then
    some .idleTimeout
  else none

inductive TickOutcome
  | quiet
  | expired (reason : BlockReason)
  | retransmit (flow : FlowRecord) (packet : Bytes)

def tickOutcome (config : EngineConfig) (now : ℕ) (flow : FlowRecord) : TickOutcome :=
  match flow.deadline config now with
  | some reason => .expired reason
  | none =>
    match flow.outstandingToApplication with
    | none => .quiet
    | some outstanding =>
      if now - outstanding.sentMs ≥ config.retransmitIntervalMs then
        if outstanding.retransmissions ≥ config.maxRetransmissions then .expired .idleTimeout
        else
          let flow := { flow with outstandingToApplication := some (outstanding.renew now) }
          .retransmit flow (responseFromValues flow outstanding.sequence
            outstanding.acknowledgement outstanding.flags config.receiveWindow outstanding.payload)
      else .quiet

def afterTick (config : EngineConfig) (now : ℕ) (flow : FlowRecord) : FlowRecord :=
  match flow.tickOutcome config now with
  | .retransmit flow _ => flow
  | _ => flow

def tickActions (config : EngineConfig) (now : ℕ) (flow : FlowRecord) : List EngineAction :=
  match flow.tickOutcome config now with
  | .retransmit _ packet => [flow.diagnostic .retransmission, .sendSyntheticResponse packet]
  | _ => []

def tickExpiry (config : EngineConfig) (now : ℕ) (flow : FlowRecord) : Option BlockReason :=
  match flow.tickOutcome config now with
  | .expired reason => some reason
  | _ => none

/-- The timestamps `resume` moves; the outstanding segment keeps its own. -/
def postpone (slept : ℕ) (flow : FlowRecord) : FlowRecord :=
  { flow with
    snapshot.timestamps.createdMs := saturatingAdd flow.snapshot.timestamps.createdMs slept
    snapshot.timestamps.lastActivityMs :=
      saturatingAdd flow.snapshot.timestamps.lastActivityMs slept
    snapshot.timestamps.connectStartedMs :=
      flow.snapshot.timestamps.connectStartedMs.map fun started => saturatingAdd started slept }

end FlowRecord

end OnionRoute.PacketEngine
