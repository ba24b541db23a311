import OnionRoute.Library.Table
import OnionRoute.GatewayProtocol.Messages

/-! The bounded outbound scheduler: one control queue and one queue per stream. -/

namespace OnionRoute.GatewayProtocol

open Library

def maxControlBurst : ℕ := 8

structure OutboundItem where
  body : Body
  accountedBytes : ℕ
  deriving DecidableEq

structure FairScheduler where
  control : List OutboundItem
  streams : Table UInt64 (List OutboundItem)
  perStreamBytes : Table UInt64 ℕ
  active : List UInt64
  queuedBytes : ℕ
  maximumQueuedBytes : ℕ
  maximumQueuedBytesPerStream : ℕ
  maximumControlFrames : ℕ
  controlBurst : ℕ

namespace FairScheduler

def new (maximumQueuedBytes maximumQueuedBytesPerStream maximumControlFrames : ℕ) :
    Result FairScheduler :=
  if maximumQueuedBytes = 0 ∨ maximumQueuedBytesPerStream = 0 ∨
      maximumQueuedBytesPerStream > maximumQueuedBytes ∨ maximumControlFrames = 0 then
    throw (.invalidField "scheduler_limits")
  else
    pure {
      control := []
      streams := ∅
      perStreamBytes := ∅
      active := []
      queuedBytes := 0
      maximumQueuedBytes
      maximumQueuedBytesPerStream
      maximumControlFrames
      controlBurst := 0 }

def reserveGlobal (s : FairScheduler) (bytes : ℕ) : Result Unit := do
  if s.queuedBytes + bytes > u64Max then throw .integerOverflow
  if s.queuedBytes + bytes > s.maximumQueuedBytes then throw .backpressure

def canEnqueueControl (s : FairScheduler) (bytes : ℕ) : Result Unit := do
  if s.control.length ≥ s.maximumControlFrames then throw .backpressure
  s.reserveGlobal bytes

def streamBytes (s : FairScheduler) (streamId : UInt64) : ℕ :=
  (s.perStreamBytes.lookup streamId).getD 0

def canEnqueueStream (s : FairScheduler) (streamId : UInt64) (bytes : ℕ) : Result Unit := do
  s.reserveGlobal bytes
  if s.streamBytes streamId + bytes > u64Max then throw .integerOverflow
  if s.streamBytes streamId + bytes > s.maximumQueuedBytesPerStream then throw .backpressure

def pushControl (item : OutboundItem) (s : FairScheduler) : FairScheduler :=
  { s with
    queuedBytes := s.queuedBytes + item.accountedBytes
    control := s.control ++ [item] }

def enqueueControl (item : OutboundItem) (s : FairScheduler) : Result FairScheduler := do
  s.canEnqueueControl item.accountedBytes
  pure (s.pushControl item)

def queueOf (s : FairScheduler) (streamId : UInt64) : List OutboundItem :=
  (s.streams.lookup streamId).getD []

def pushStream (streamId : UInt64) (item : OutboundItem) (s : FairScheduler) : FairScheduler :=
  { s with
    active := if s.queueOf streamId = [] then s.active ++ [streamId] else s.active
    streams := s.streams.insert streamId (s.queueOf streamId ++ [item])
    perStreamBytes := s.perStreamBytes.insert streamId (s.streamBytes streamId + item.accountedBytes)
    queuedBytes := s.queuedBytes + item.accountedBytes }

-- The source adds to `queued_bytes` last and checked; `reserve_global` has checked the sum.
def enqueueStream (streamId : UInt64) (item : OutboundItem) (s : FairScheduler) :
    Result FairScheduler := do
  s.canEnqueueStream streamId item.accountedBytes
  pure (s.pushStream streamId item)

def popControl (s : FairScheduler) : Option OutboundItem × FairScheduler :=
  match s.control with
  | [] => (none, s)
  | item :: rest =>
    (some item, { s with
      control := rest
      queuedBytes := s.queuedBytes - item.accountedBytes })

def popStream (streamId : UInt64) (rest : List UInt64) (s : FairScheduler) :
    Option OutboundItem × FairScheduler :=
  match s.queueOf streamId with
  | [] => (none, { s with active := rest })
  | item :: items =>
    let s := { s with
      controlBurst := 0
      queuedBytes := s.queuedBytes - item.accountedBytes }
    if items = [] then
      (some item, { s with
        active := rest
        streams := s.streams.erase streamId
        perStreamBytes := s.perStreamBytes.erase streamId })
    else
      (some item, { s with
        active := rest ++ [streamId]
        streams := s.streams.insert streamId items
        perStreamBytes := s.perStreamBytes.insert streamId
          (s.streamBytes streamId - item.accountedBytes) })

def popNext (s : FairScheduler) : Option OutboundItem × FairScheduler :=
  if s.control ≠ [] ∧ (s.controlBurst < maxControlBurst ∨ s.active = []) then
    { s with controlBurst := s.controlBurst + 1 }.popControl
  else
    match s.active with
    | streamId :: rest => s.popStream streamId rest
    | [] => s.popControl

def cancelStream (streamId : UInt64) (s : FairScheduler) : FairScheduler :=
  { s with
    streams := s.streams.erase streamId
    perStreamBytes := s.perStreamBytes.erase streamId
    active := s.active.filter fun candidate => candidate ≠ streamId
    queuedBytes := s.queuedBytes -
      (s.queueOf streamId).foldl (fun sum item => min (sum + item.accountedBytes) u64Max) 0 }

end FairScheduler

end OnionRoute.GatewayProtocol
