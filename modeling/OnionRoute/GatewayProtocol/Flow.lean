import OnionRoute.Library.Table
import OnionRoute.GatewayProtocol.Validation

/-! The credit ledger of a session. `now` is the clock reading that a call stores. -/

namespace OnionRoute.GatewayProtocol

open Library

inductive StreamPhase
  | openingLocal
  | openingRemote
  | open
  deriving DecidableEq

structure StreamState where
  phase : StreamPhase
  sendWindow : ℕ
  receiveWindow : ℕ
  localHalfClosed : Bool
  remoteHalfClosed : Bool
  lastActivity : ℕ
  deriving DecidableEq

structure FlowController where
  connectionSendWindow : ℕ
  connectionReceiveWindow : ℕ
  maximumConcurrentStreams : ℕ
  maximumSeenStreamId : UInt64
  streams : Table UInt64 StreamState

def validateWindow (window : UInt32) : Result Unit :=
  require (window ≠ 0 ∧ window.toNat ≤ maxStreamWindow) "stream_window"

def checkedCreditAdd (current credit maximum : ℕ) : Result ℕ := do
  if current + credit > u64Max then throw .integerOverflow
  if current + credit > maximum then throw .flowControlViolation
  pure (current + credit)

namespace FlowController

def new (peerConnectionReceiveWindow localConnectionReceiveWindow : UInt32)
    (maximumConcurrentStreams : ℕ) : Result FlowController :=
  if peerConnectionReceiveWindow = 0 ∨ localConnectionReceiveWindow = 0 ∨
      peerConnectionReceiveWindow.toNat > maxConnectionWindow ∨
      localConnectionReceiveWindow.toNat > maxConnectionWindow ∨
      maximumConcurrentStreams = 0 then
    throw (.invalidField "flow_controller_limits")
  else
    pure {
      connectionSendWindow := peerConnectionReceiveWindow.toNat
      connectionReceiveWindow := localConnectionReceiveWindow.toNat
      maximumConcurrentStreams
      maximumSeenStreamId := 0
      streams := ∅ }

def insertNewStream (flow : FlowController) (streamId : UInt64) (phase : StreamPhase)
    (sendWindow receiveWindow : UInt32) (now : ℕ) : Result FlowController := do
  validateStreamId streamId
  if streamId ≤ flow.maximumSeenStreamId ∨ flow.streams.contains streamId then
    throw .invalidStreamId
  if flow.streams.size ≥ flow.maximumConcurrentStreams then throw .streamLimit
  if sendWindow ≠ 0 then validateWindow sendWindow
  if receiveWindow ≠ 0 then validateWindow receiveWindow
  pure { flow with
    maximumSeenStreamId := streamId
    streams := flow.streams.insert streamId {
      phase
      sendWindow := sendWindow.toNat
      receiveWindow := receiveWindow.toNat
      localHalfClosed := false
      remoteHalfClosed := false
      lastActivity := now } }

def openLocal (streamId : UInt64) (localReceiveWindow : UInt32) (now : ℕ) (flow : FlowController) :
    Result FlowController :=
  flow.insertNewStream streamId .openingLocal 0 localReceiveWindow now

def receiveOpen (streamId : UInt64) (peerReceiveWindow : UInt32) (now : ℕ) (flow : FlowController) :
    Result FlowController :=
  flow.insertNewStream streamId .openingRemote peerReceiveWindow 0 now

def streamMut (flow : FlowController) (streamId : UInt64) : Result StreamState := do
  validateStreamId streamId
  match flow.streams.lookup streamId with
  | none => throw .invalidStreamId
  | some stream => pure stream

def putStream (flow : FlowController) (streamId : UInt64) (stream : StreamState) : FlowController :=
  { flow with streams := flow.streams.modify streamId fun _ => stream }

def confirmLocalOpen (streamId : UInt64) (peerReceiveWindow : UInt32) (now : ℕ)
    (flow : FlowController) : Result FlowController := do
  validateWindow peerReceiveWindow
  let stream ← flow.streamMut streamId
  if stream.phase ≠ .openingLocal then
    throw (.protocolViolation "unexpected stream-open response")
  pure (flow.putStream streamId { stream with
    phase := .open
    sendWindow := peerReceiveWindow.toNat
    lastActivity := now })

def acceptRemoteOpen (streamId : UInt64) (localReceiveWindow : UInt32) (now : ℕ)
    (flow : FlowController) : Result FlowController := do
  validateWindow localReceiveWindow
  let stream ← flow.streamMut streamId
  if stream.phase ≠ .openingRemote then
    throw (.protocolViolation "unexpected stream acceptance")
  pure (flow.putStream streamId { stream with
    phase := .open
    receiveWindow := localReceiveWindow.toNat
    lastActivity := now })

def rejectOrClose (streamId : UInt64) (flow : FlowController) : Result FlowController := do
  let _ ← flow.streamMut streamId
  pure { flow with streams := flow.streams.erase streamId }

def debitSend (streamId : UInt64) (amount now : ℕ) (flow : FlowController) :
    Result FlowController := do
  if amount = 0 then throw (.invalidField "data_length")
  if flow.connectionSendWindow < amount then throw .backpressure
  let stream ← flow.streamMut streamId
  if stream.phase ≠ .open ∨ stream.localHalfClosed then throw .closed
  if stream.sendWindow < amount then throw .backpressure
  let debited := flow.putStream streamId { stream with
    sendWindow := stream.sendWindow - amount
    lastActivity := now }
  pure { debited with connectionSendWindow := flow.connectionSendWindow - amount }

def debitReceive (streamId : UInt64) (amount now : ℕ) (flow : FlowController) :
    Result FlowController := do
  let invalidStream := (flow.streams.lookup streamId).elim true fun stream =>
    stream.phase ≠ .open || stream.remoteHalfClosed || stream.receiveWindow < amount
  if amount = 0 ∨ flow.connectionReceiveWindow < amount ∨ invalidStream then
    throw .flowControlViolation
  let stream ← flow.streamMut streamId
  let debited := flow.putStream streamId { stream with
    receiveWindow := stream.receiveWindow - amount
    lastActivity := now }
  pure { debited with connectionReceiveWindow := flow.connectionReceiveWindow - amount }

def receiveWindowUpdate (streamId : UInt64) (credit : UInt32) (now : ℕ) (flow : FlowController) :
    Result FlowController := do
  if credit = 0 then throw .flowControlViolation
  if streamId = 0 then
    let window ← checkedCreditAdd flow.connectionSendWindow credit.toNat maxConnectionWindow
    pure { flow with connectionSendWindow := window }
  else
    let stream ← flow.streamMut streamId
    let window ← checkedCreditAdd stream.sendWindow credit.toNat maxStreamWindow
    pure (flow.putStream streamId { stream with sendWindow := window, lastActivity := now })

def grantReceiveCredit (streamId : UInt64) (credit : UInt32) (now : ℕ) (flow : FlowController) :
    Result FlowController := do
  if credit = 0 then throw (.invalidField "window_credit")
  if streamId = 0 then
    let window ← checkedCreditAdd flow.connectionReceiveWindow credit.toNat maxConnectionWindow
    pure { flow with connectionReceiveWindow := window }
  else
    let stream ← flow.streamMut streamId
    let window ← checkedCreditAdd stream.receiveWindow credit.toNat maxStreamWindow
    pure (flow.putStream streamId { stream with receiveWindow := window, lastActivity := now })

def localHalfClose (streamId : UInt64) (now : ℕ) (flow : FlowController) : Result FlowController := do
  let stream ← flow.streamMut streamId
  if stream.phase ≠ .open ∨ stream.localHalfClosed then throw .closed
  pure (flow.putStream streamId { stream with localHalfClosed := true, lastActivity := now })

def receiveHalfClose (streamId : UInt64) (now : ℕ) (flow : FlowController) :
    Result FlowController := do
  let stream ← flow.streamMut streamId
  if stream.phase ≠ .open ∨ stream.remoteHalfClosed then
    throw (.protocolViolation "duplicate remote half-close")
  pure (flow.putStream streamId { stream with remoteHalfClosed := true, lastActivity := now })

def expireIdle (flow : FlowController) (now timeout : ℕ) : List UInt64 :=
  (flow.streams.keys.insertionSort (· ≤ ·)).filter fun streamId =>
    (flow.streams.lookup streamId).any fun stream =>
      stream.lastActivity ≤ now && timeout ≤ now - stream.lastActivity

end FlowController

end OnionRoute.GatewayProtocol
