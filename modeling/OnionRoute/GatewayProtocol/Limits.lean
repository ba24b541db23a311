import OnionRoute.Library.Words

/-! Protocol errors and the local hard limits. Durations and instants are counted in
nanoseconds. -/

namespace OnionRoute.GatewayProtocol

open Library

inductive ProtocolError
  | decode (description : String)
  | frameTooLarge (announced maximum : ℕ)
  | emptyFrame
  | invalidLengthPrefix
  | nonCanonicalVarint
  | truncatedWireValue
  | duplicateField (tag : UInt32)
  | unknownMessageTag (tag : UInt32)
  | missingBody
  | invalidField (field : String)
  | protocolViolation (invariant : String)
  | incompatibleVersion
  | silentDowngrade
  | invalidSequence
  | invalidSession
  | backpressure
  | streamLimit
  | invalidStreamId
  | flowControlViolation
  | integerOverflow
  | handshakeTimeout
  | idleTimeout
  | authenticationRejected
  | closed
  | entropyUnavailable
  deriving DecidableEq

abbrev Result (α : Type) := Except ProtocolError α

def absoluteMaxFrameSize : ℕ := 64 * 1024
def minNegotiableFrameSize : ℕ := 1024
def maxDataPayload : ℕ := 32 * 1024
def maxCapabilityToken : ℕ := 4 * 1024
def maxProofOfPossession : ℕ := 4 * 1024
def maxCapabilities : ℕ := 32
def maxCapabilityName : ℕ := 64
def maxHostname : ℕ := 253
def maxResolveAddresses : ℕ := 16
def maxConcurrentStreams : ℕ := 4096
def maxStreamWindow : ℕ := 4 * 1024 * 1024
def maxConnectionWindow : ℕ := 16 * 1024 * 1024
def maxTimeoutMs : UInt32 := 120000
def maxSessionTtlSeconds : UInt32 := 86400
def maxDrainTimeoutMs : UInt32 := 30000

structure ProtocolLimits where
  maximumFrameSize : ℕ
  maximumConcurrentStreams : ℕ
  initialConnectionWindow : UInt32
  initialStreamWindow : UInt32
  maximumQueuedBytes : ℕ
  maximumQueuedBytesPerStream : ℕ
  maximumControlFrames : ℕ
  maximumOutstandingResolves : ℕ
  handshakeTimeout : ℕ
  idleStreamTimeout : ℕ
  deriving DecidableEq

namespace ProtocolLimits

def default : ProtocolLimits where
  maximumFrameSize := absoluteMaxFrameSize
  maximumConcurrentStreams := 512
  initialConnectionWindow := 4 * 1024 * 1024
  initialStreamWindow := 256 * 1024
  maximumQueuedBytes := 8 * 1024 * 1024
  maximumQueuedBytesPerStream := 256 * 1024
  maximumControlFrames := 256
  maximumOutstandingResolves := 128
  handshakeTimeout := 30 * nanosPerSecond
  idleStreamTimeout := 120 * nanosPerSecond

def validate (limits : ProtocolLimits) : Result Unit := do
  if limits.maximumFrameSize < minNegotiableFrameSize ∨
      limits.maximumFrameSize > absoluteMaxFrameSize then
    throw (.invalidField "maximum_frame_size")
  if limits.maximumConcurrentStreams < 1 ∨
      limits.maximumConcurrentStreams > maxConcurrentStreams then
    throw (.invalidField "maximum_concurrent_streams")
  if limits.initialConnectionWindow = 0 ∨
      limits.initialConnectionWindow.toNat > maxConnectionWindow then
    throw (.invalidField "initial_connection_window")
  if limits.initialStreamWindow = 0 ∨ limits.initialStreamWindow.toNat > maxStreamWindow then
    throw (.invalidField "initial_stream_window")
  if limits.maximumQueuedBytes = 0 ∨ limits.maximumQueuedBytesPerStream = 0 ∨
      limits.maximumQueuedBytesPerStream > limits.maximumQueuedBytes ∨
      limits.maximumControlFrames = 0 ∨ limits.maximumOutstandingResolves = 0 then
    throw (.invalidField "queue_limits")
  if limits.handshakeTimeout = 0 ∨ limits.idleStreamTimeout = 0 then
    throw (.invalidField "timeouts")

end ProtocolLimits

end OnionRoute.GatewayProtocol
