import OnionRoute.GatewayDaemon.Acl
import OnionRoute.GatewayDaemon.FlowCredit
import OnionRoute.Library.Outcome
import OnionRoute.Library.Table

/-! What the loop of a session does with a frame of the client and with an event of a stream. -/

namespace OnionRoute.GatewayDaemon

open Library

/-- A spawned `pump_egress_reader`. It shares its credit with the entry of its stream. -/
structure ReaderTask where
  streamId : UInt64
  credit : FlowCredit
  phase : Reader

namespace ReaderTask

inductive Action
  | acquire
  | take
  | lower
  | read (payload : Bytes)
  | endOfFile
  | readError
  | readTimeout
  | restore
  | pay (bandwidth : GatewayResult Unit)
  | send

def pump (maxData : ℕ) (task : ReaderTask) : Action → Option (ReaderTask × Option StreamEvent)
  | .acquire =>
    match task.phase with
    | .idle => some ({ task with phase := .waiting (task.credit.demand maxData) }, none)
    | _ => none
  | .take =>
    match task.phase with
    | .waiting amount =>
      if amount ≤ task.credit.permits then
        some ({ task with credit := task.credit.takePermits amount, phase := .taken amount }, none)
      else none
    | _ => none
  | .lower =>
    match task.phase with
    | .taken amount =>
      some ({ task with credit := task.credit.lower amount, phase := .reading amount }, none)
    | _ => none
  | .read payload =>
    match task.phase with
    | .reading reserved =>
      if payload ≠ [] ∧ payload.length ≤ reserved then
        some ({ task with phase := .restoring (reserved - payload.length) (some payload) }, none)
      else none
    | _ => none
  | .endOfFile =>
    match task.phase with
    | .reading reserved => some ({ task with phase := .restoring reserved none }, none)
    | _ => none
  | .readError =>
    match task.phase with
    | .reading _ => some ({ task with phase := .sending (.failed task.streamId .egressFailure) }, none)
    | _ => none
  | .readTimeout =>
    match task.phase with
    | .reading _ => some ({ task with phase := .sending (.failed task.streamId .timeout) }, none)
    | _ => none
  | .restore =>
    match task.phase with
    | .restoring 0 report => some ({ task with phase := .settled task.streamId report }, none)
    | .restoring amount report =>
      some ({ task with credit := task.credit.putBack amount, phase := .crediting amount report },
        none)
    | .crediting amount report =>
      some ({ task with
        credit := task.credit.addPermits amount, phase := .settled task.streamId report }, none)
    | _ => none
  | .pay bandwidth =>
    match task.phase with
    | .paying payload =>
      match bandwidth with
      | .ok () => some ({ task with phase := .sending (.data task.streamId payload) }, none)
      | .error e => some ({ task with phase := .sending (.failed task.streamId e) }, none)
    | _ => none
  | .send =>
    match task.phase with
    | .sending event => some ({ task with phase := .sent event }, some event)
    | _ => none

end ReaderTask

structure ActiveStream where
  reader : ReaderTask
  inboundCredit : ℕ
  localClosed : Bool
  remoteClosed : Bool

inductive LogEntry
  | received (frame : GatewayFrame)
  | sent (body : Body)
  deriving DecidableEq

/-- The variables of `run_session` that its handlers work on, with the tasks they have spawned. An
aborted task may still be running. -/
structure SessionState where
  serverSequence : UInt64
  streams : Table UInt64 ActiveStream
  pending : Finset UInt64
  highestStreamId : UInt64
  dials : List (UInt64 × ℕ)
  aborted : List ReaderTask
  log : List LogEntry

structure SessionContext where
  limits : LimitConfig
  capabilities : List String
  sessionId : Bytes

def SessionContext.hasCapability (ctx : SessionContext) (capability : String) : Bool :=
  ctx.capabilities.any (· = capability)

inductive Shutdown
  | done
  | timedOut
  | failed
  deriving DecidableEq

def Shutdown.result : Shutdown → GatewayResult Unit
  | .done => .ok ()
  | .timedOut => .error .timeout
  | .failed => .error .egressFailure

structure Outcomes where
  write : GatewayResult Unit
  correlationId : GatewayResult Bytes
  bandwidth : GatewayResult Unit
  egressWrite : Bool
  shutdown : Shutdown
  exchangeWire : Bytes → GatewayResult Bytes

abbrev SessionM := EStateM GatewayErrorCode SessionState

def maxSequence : UInt64 := 0xffffffffffffffff

section Handlers

variable (ctx : SessionContext) (o : Outcomes)

def sendBody (body : Body) : SessionM Unit := do
  modify fun s => { s with log := s.log ++ [.sent body] }
  o.write
  let s ← get
  if s.serverSequence = maxSequence then throw .protocolViolation
  set { s with serverSequence := s.serverSequence + 1 }

def sendReset (streamId : UInt64) (error : GatewayErrorCode) : SessionM Unit := do
  let correlationId ← o.correlationId
  sendBody o (.resetStream ⟨streamId, some (error.toStatus correlationId)⟩)

def SessionState.remove (s : SessionState) (streamId : UInt64) : SessionState :=
  { s with
    streams := s.streams.erase streamId
    aborted := s.aborted ++ ((s.streams.lookup streamId).map ActiveStream.reader).toList }

def SessionState.update (s : SessionState) (streamId : UInt64) (stream : ActiveStream) :
    SessionState :=
  { s with streams := s.streams.insert streamId stream }

def handleOpenTcp (request : OpenTcpRequest) : SessionM Unit := do
  let s ← get
  if request.streamId = 0 ∨ request.streamId % 2 = 0 ∨ request.streamId ≤ s.highestStreamId ∨
      request.port = 0 ∨ request.port > 65535 ∨ request.initialWindow = 0 ∨
      request.initialWindow.toNat > ctx.limits.maxStreamWindow ∨
      s.streams.size + s.pending.card ≥ ctx.limits.maxStreamsPerSession then
    throw .protocolViolation
  let _destination ← decodeDestination request.destination
  modify fun s => { s with highestStreamId := request.streamId }
  if !ctx.hasCapability "tcp-connect-v1" then
    let correlationId ← o.correlationId
    sendBody o (.openTcpResponse
      ⟨request.streamId, false, some (GatewayErrorCode.policyDenied.toStatus correlationId)⟩)
  else
    modify fun s => { s with
      pending := insert request.streamId s.pending
      dials := s.dials ++ [(request.streamId, request.initialWindow.toNat)] }

def handleData (data : Data) : SessionM Unit := do
  if data.payload = [] ∨ data.payload.length > ctx.limits.maxDataBytes then throw .messageTooLarge
  let s ← get
  match s.streams.lookup data.streamId with
  | none => throw .protocolViolation
  | some stream =>
    if stream.localClosed ∨ data.payload.length > stream.inboundCredit then
      throw .protocolViolation
    o.bandwidth
    if o.egressWrite then
      -- what the write has used up is given back at once
      set (s.update data.streamId { stream with
        inboundCredit := stream.inboundCredit - data.payload.length + data.payload.length })
      sendBody o (.windowUpdate ⟨data.streamId, UInt32.ofNat data.payload.length⟩)
    else
      set (s.remove data.streamId)
      sendReset o data.streamId .egressFailure

def handleWindowUpdate (update : WindowUpdate) : SessionM Unit := do
  if update.credit = 0 then throw .protocolViolation
  let s ← get
  match s.streams.lookup update.streamId with
  | none => throw .protocolViolation
  | some stream =>
    let credit ← stream.reader.credit.grant update.credit.toNat
    set (s.update update.streamId { stream with reader := { stream.reader with credit } })

def handleHalfClose (close : HalfClose) : SessionM Unit := do
  let s ← get
  match s.streams.lookup close.streamId with
  | none => throw .protocolViolation
  | some stream =>
    if stream.localClosed then throw .protocolViolation
    o.shutdown.result
    let s := s.update close.streamId { stream with localClosed := true }
    if stream.remoteClosed then set (s.remove close.streamId) else set s

def handleResetStream (reset : ResetStream) : SessionM Unit := do
  let s ← get
  match s.streams.lookup reset.streamId with
  | none => throw .protocolViolation
  | some _ => set (s.remove reset.streamId)

def handleDnsQuery (query : DnsQuery) : SessionM Unit := do
  if !ctx.hasCapability "dns-wire-v1" then throw .policyDenied
  if query.wireQuery = [] ∨ query.wireQuery.length > 64 * 1024 then throw .messageTooLarge
  let wireResponse ← o.exchangeWire query.wireQuery
  sendBody o (.dnsResponse ⟨query.queryId, wireResponse⟩)

def handlePing (ping : Ping) : SessionM Unit := do
  if ¬ (16 ≤ ping.nonce.length ∧ ping.nonce.length ≤ 32) then throw .protocolViolation
  sendBody o (.pong ⟨ping.nonce⟩)

def handleBody : Body → SessionM Unit
  | .openTcpRequest request => handleOpenTcp ctx o request
  | .data data => handleData ctx o data
  | .windowUpdate update => handleWindowUpdate update
  | .halfClose close => handleHalfClose o close
  | .resetStream reset => handleResetStream reset
  | .dnsQuery query => handleDnsQuery ctx o query
  | .ping ping => handlePing o ping
  | .goAway => throw .sessionExpired
  | _ => throw .protocolViolation

def handleClientFrame (frame : GatewayFrame) : SessionM Unit := do
  modify fun s => { s with log := s.log ++ [.received frame] }
  match frame.body with
  | none => throw .protocolViolation
  | some body => handleBody ctx o body

def startStream (streamId : UInt64) (initialWindow : ℕ) : ActiveStream where
  reader := ⟨streamId, .new initialWindow ctx.limits.maxStreamWindow, .idle⟩
  inboundCredit := ctx.limits.initialStreamWindow
  localClosed := false
  remoteClosed := false

def handleStreamEvent : StreamEvent → SessionM Unit
  | .opened streamId initialWindow result => do
    let s ← get
    if streamId ∈ s.pending then
      let s := { s with pending := s.pending.erase streamId }
      match result with
      | .ok () =>
        set (s.update streamId (startStream ctx streamId initialWindow))
        sendBody o (.openTcpResponse ⟨streamId, true, none⟩)
      | .error error =>
        set s
        let correlationId ← o.correlationId
        sendBody o (.openTcpResponse ⟨streamId, false, some (error.toStatus correlationId)⟩)
  | .data streamId payload => do
    let s ← get
    if s.streams.contains streamId then sendBody o (.data ⟨streamId, payload⟩)
  | .halfClosed streamId => do
    let s ← get
    match s.streams.lookup streamId with
    | none => pure ()
    | some stream =>
      set (s.update streamId { stream with remoteClosed := true })
      sendBody o (.halfClose ⟨streamId⟩)
      if stream.localClosed then modify fun s => s.remove streamId
  | .failed streamId error => do
    let s ← get
    match s.streams.lookup streamId with
    | none => pure ()
    | some _ =>
      set (s.remove streamId)
      sendReset o streamId error

end Handlers

end OnionRoute.GatewayDaemon
