import OnionRoute.Library.Outcome
import OnionRoute.GatewayProtocol.Session
import OnionRoute.GatewayProtocol.WireFormat

/-! Frames on a byte stream. `decode` is the generated decoder of `GatewayFrame`. -/

namespace OnionRoute.GatewayProtocol

open Library

def maxU32VarintBytes : ℕ := 5
def firstMessageTag : ℕ := 10
def lastV1MessageTag : ℕ := 28
def lastReservedMessageTag : ℕ := 63
def u32Max : ℕ := 4294967295
def usizeMax : ℕ := 18446744073709551615

def encodeU32Varint (value : UInt32) : Bytes :=
  if 0x80 ≤ value then (value.toUInt8 ||| 0x80) :: encodeU32Varint (value >>> 7)
  else [value.toUInt8]
termination_by value.toNat
decreasing_by
  rw [UInt32.toNat_shiftRight]
  have hvalue : 0x80 ≤ value.toNat := by assumption
  simp only [UInt32.reduceToNat, Nat.reduceMod, Nat.shiftRight_eq_div_pow]
  omega

def canonicalDigits (index value : ℕ) : Bytes → Result ℕ
  | [] => throw .invalidLengthPrefix
  | byte :: rest => do
    let bits := (byte &&& 0x7f).toNat
    if index = 4 ∧ bits > 0x0f then throw .invalidLengthPrefix
    let value := value ||| bits <<< (index * 7)
    if byte &&& 0x80 = 0 then
      if rest ≠ [] then throw .invalidLengthPrefix
      let minimum := if index = 0 then 0 else 1 <<< (index * 7)
      if value < minimum then throw .nonCanonicalVarint
      pure value
    else canonicalDigits (index + 1) value rest

def decodeCanonicalU32Varint (bytes : Bytes) : Result ℕ := do
  if bytes = [] ∨ bytes.length > maxU32VarintBytes then throw .invalidLengthPrefix
  canonicalDigits 0 0 bytes

abbrev WireM := EStateM ProtocolError Bytes

def nextByte : WireM UInt8 := do
  match ← get with
  | [] => throw .truncatedWireValue
  | byte :: rest =>
    set rest
    pure byte

def wireDigits (index value : ℕ) : (left : ℕ) → WireM ℕ
  | 0 => throw (.protocolViolation "protobuf varint overflow")
  | left + 1 => do
    let byte ← nextByte
    let bits := (byte &&& 0x7f).toNat
    if index = 9 ∧ bits > 1 then throw (.protocolViolation "protobuf varint overflow")
    let value := value ||| bits <<< (index * 7)
    if byte &&& 0x80 = 0 then
      if 0 < index ∧ value < 1 <<< (index * 7) then throw .nonCanonicalVarint
      pure value
    else wireDigits (index + 1) value left

def readWireVarint : WireM ℕ := wireDigits 0 0 10

/-- `total` is the length of the frame, so `total` less what is left is the offset. -/
def skipBytes (total length : ℕ) : WireM Unit := do
  let rest ← get
  if total - rest.length + length > usizeMax then throw .integerOverflow
  if length > rest.length then throw .truncatedWireValue
  set (rest.drop length)

def skipWireValue (total wireType : ℕ) : WireM Unit :=
  match wireType with
  | 0 => discard readWireVarint
  | 1 => skipBytes total 8
  | 2 => do skipBytes total (← readWireVarint)
  | 5 => skipBytes total 4
  | _ => throw (.protocolViolation "unsupported protobuf wire type")

def expectedWireType (tag : ℕ) : Result (Option ℕ) :=
  if tag = 1 then pure (some 0)
  else if tag = 2 ∨ tag = 4 ∨ firstMessageTag ≤ tag ∧ tag ≤ lastV1MessageTag then pure (some 2)
  else if tag = 3 then pure none
  else if 5 ≤ tag ∧ tag ≤ 9 then throw (.protocolViolation "reserved envelope field")
  else if 29 ≤ tag ∧ tag ≤ lastReservedMessageTag then throw (.unknownMessageTag (.ofNat tag))
  else pure none

/-- Reads one field; `seen` are the tags so far, and `bodyTag` that of the body. -/
def scanField (total : ℕ) (seen : List ℕ) (bodyTag : Option ℕ) : WireM (List ℕ × Option ℕ) := do
  let key ← readWireVarint
  let tag := key >>> 3
  if tag > u32Max then throw .integerOverflow
  let wireType := key &&& 0x07
  if tag = 0 then throw (.protocolViolation "protobuf tag zero")
  match expectedWireType tag with
  | .error e => throw e
  | .ok expected =>
    if expected.any (· ≠ wireType) then throw (.protocolViolation "invalid envelope wire type")
    let single : Bool := tag ≤ lastV1MessageTag ∧ tag ≠ 3
    if single ∧ tag ∈ seen then throw (.duplicateField (.ofNat tag))
    let isBody : Bool := firstMessageTag ≤ tag ∧ tag ≤ lastV1MessageTag
    if isBody ∧ bodyTag.isSome then throw (.protocolViolation "multiple frame bodies")
    skipWireValue total wireType
    pure (if single then tag :: seen else seen, if isBody then some tag else bodyTag)

section Progress

variable {rest rest' : Bytes}

lemma nextByte_eq_ok {byte : UInt8} : nextByte rest = .ok byte rest' ↔ rest = byte :: rest' := by
  cases rest with
  | nil => simp [nextByte, bind, EStateM.bind, state_get, state_throw]
  | cons first rest => simp [nextByte, bind, EStateM.bind, state_get, state_set, pure, EStateM.pure]

lemma wireDigits_lt {index value left n : ℕ} (h : wireDigits index value left rest = .ok n rest') :
    rest'.length < rest.length := by
  induction left generalizing index value rest with
  | zero => cases h
  | succ left ih =>
    simp only [wireDigits, state_bind_eq_ok, nextByte_eq_ok, state_guard_eq_ok] at h
    obtain ⟨byte, middle, rfl, -, hdigit⟩ := h
    split at hdigit
    next =>
      simp only [state_guard_eq_ok, state_pure_eq_ok] at hdigit
      obtain ⟨-, -, rfl⟩ := hdigit
      simp
    next =>
      have hlt := ih hdigit
      simp only [List.length_cons]
      omega

lemma skipBytes_le {total length : ℕ} {u : Unit} (h : skipBytes total length rest = .ok u rest') :
    rest'.length ≤ rest.length := by
  simp only [skipBytes, state_bind_eq_ok, state_get_eq_ok, state_guard_eq_ok, state_set_eq_ok] at h
  obtain ⟨_, _, ⟨rfl, rfl⟩, -, -, rfl⟩ := h
  simp

lemma skipWireValue_le {total wireType : ℕ} {u : Unit}
    (h : skipWireValue total wireType rest = .ok u rest') : rest'.length ≤ rest.length := by
  unfold skipWireValue at h
  split at h
  next =>
    simp only [discard, Functor.discard, Functor.mapConst, EStateM.map, Function.comp] at h
    split at h
    next hread =>
      cases h
      exact (wireDigits_lt hread).le
    next => cases h
  next => exact skipBytes_le h
  next =>
    simp only [state_bind_eq_ok] at h
    obtain ⟨length, middle, hread, hskip⟩ := h
    exact (skipBytes_le hskip).trans (wireDigits_lt hread).le
  next => exact skipBytes_le h
  next => cases h

end Progress

lemma scanField_lt {total : ℕ} {seen : List ℕ} {bodyTag : Option ℕ} {rest rest' : Bytes}
    {next : List ℕ × Option ℕ} (h : scanField total seen bodyTag rest = .ok next rest') :
    rest'.length < rest.length := by
  simp only [scanField, state_bind_eq_ok, state_guard_eq_ok] at h
  obtain ⟨key, middle, hkey, -, -, hfield⟩ := h
  cases hexpected : expectedWireType (key >>> 3) with
  | error e =>
    rw [hexpected] at hfield
    cases hfield
  | ok expected =>
    simp only [hexpected, state_guard_eq_ok, state_bind_eq_ok, state_pure_eq_ok] at hfield
    obtain ⟨-, -, -, _, last, hskip, -, rfl⟩ := hfield
    exact (skipWireValue_le hskip).trans_lt (wireDigits_lt hkey)

def scanFields (total : ℕ) (seen : List ℕ) (bodyTag : Option ℕ) (rest : Bytes) : Result Unit :=
  if rest = [] then pure ()
  else
    match _h : scanField total seen bodyTag rest with
    | .ok (seen, bodyTag) rest' => scanFields total seen bodyTag rest'
    | .error e _ => throw e
termination_by rest.length
decreasing_by exact scanField_lt _h

def scanGatewayEnvelope (bytes : Bytes) : Result Unit :=
  scanFields bytes.length [] none bytes

def encodeFrame (frame : GatewayFrame) (maximumFrameSize : ℕ) : Result Bytes := do
  checkFrameSize frame maximumFrameSize
  if frame.encodedLen > u32Max then throw .integerOverflow
  pure (encodeU32Varint (.ofNat frame.encodedLen) ++ frame.encode)

section Readers

variable (decode : Bytes → Except String GatewayFrame)

def decodeFrameBytes (bytes : Bytes) : Result GatewayFrame := do
  if bytes = [] then throw .emptyFrame
  if bytes.length > absoluteMaxFrameSize then
    throw (.frameTooLarge bytes.length absoluteMaxFrameSize)
  scanGatewayEnvelope bytes
  let frame ← (decode bytes).mapError .decode
  if frame.body.isNone then throw .missingBody
  pure frame

def checkLength (maximumFrameSize : ℕ) (digits : Bytes) : Result ℕ := do
  let length ← decodeCanonicalU32Varint digits
  if length = 0 then throw .emptyFrame
  if length > maximumFrameSize then throw (.frameTooLarge length maximumFrameSize)
  pure length

structure DecodeProgress where
  consumed : ℕ
  frame : Option GatewayFrame

structure FrameDecoder where
  maximumFrameSize : ℕ
  digits : Bytes
  expectedBody : Option ℕ
  body : Bytes

abbrev DecoderM := EStateM ProtocolError FrameDecoder

namespace FrameDecoder

def new (maximumFrameSize : ℕ) : Result FrameDecoder := do
  validateMaximum maximumFrameSize
  pure { maximumFrameSize, digits := [], expectedBody := none, body := [] }

def setMaximumFrameSize (maximumFrameSize : ℕ) : DecoderM Unit := fun d =>
  match validateMaximum maximumFrameSize with
  | .error e => .error e d
  | .ok _ =>
    match d.expectedBody with
    | some expected =>
      if expected > maximumFrameSize then .error (.frameTooLarge expected maximumFrameSize) d
      else .ok () { d with maximumFrameSize }
    | none => .ok () { d with maximumFrameSize }

def bufferedBytes (d : FrameDecoder) : ℕ :=
  d.digits.length + d.body.length

def reset (d : FrameDecoder) : FrameDecoder :=
  { d with digits := [], expectedBody := none, body := [] }

def pushDigit (byte : UInt8) : DecoderM Bool := fun d =>
  if d.digits.length = maxU32VarintBytes then .error .invalidLengthPrefix d.reset
  else
    let digits := d.digits ++ [byte]
    if byte &&& 0x80 = 0 then
      match checkLength d.maximumFrameSize digits with
      | .error e => .error e d.reset
      | .ok length => .ok true { d with digits, body := [], expectedBody := some length }
    else .ok false { d with digits }

def pushDigits : Bytes → DecoderM Bytes
  | [] => pure []
  | byte :: rest => do
    if ← pushDigit byte then pure rest else pushDigits rest

def fill (d : FrameDecoder) (expected : ℕ) (input : Bytes) : FrameDecoder :=
  { d with body := d.body ++ input.take (expected - d.body.length) }

def pushBody (expected : ℕ) (input : Bytes) : DecoderM DecodeProgress := fun d =>
  let consumed := min (expected - d.body.length) input.length
  let filled := d.fill expected input
  if filled.body.length = expected then
    match decodeFrameBytes decode filled.body with
    | .error e => .error e filled.reset
    | .ok frame => .ok { consumed, frame := some frame } filled.reset
  else .ok { consumed, frame := none } filled

def push (input : Bytes) : DecoderM DecodeProgress := do
  let rest ← if (← get).expectedBody.isNone then pushDigits input else pure input
  let consumed := input.length - rest.length
  match (← get).expectedBody with
  | none => pure { consumed, frame := none }
  | some expected =>
    let progress ← pushBody decode expected rest
    pure { progress with consumed := consumed + progress.consumed }

end FrameDecoder

inductive Reading (α : Type)
  | done (value : α) (rest : Bytes)
  | rejected (e : ProtocolError)
  | starved

def readDigits (digits : Bytes) : Bytes → Reading Bytes
  | [] => if digits.length = maxU32VarintBytes then .rejected .invalidLengthPrefix else .starved
  | byte :: rest =>
    if digits.length = maxU32VarintBytes then .rejected .invalidLengthPrefix
    else if byte &&& 0x80 = 0 then .done (digits ++ [byte]) rest
    else readDigits (digits ++ [byte]) rest

def readBody (maximumFrameSize : ℕ) (digits rest : Bytes) : Reading GatewayFrame :=
  match checkLength maximumFrameSize digits with
  | .error e => .rejected e
  | .ok length =>
    if rest.length < length then .starved
    else
      match decodeFrameBytes decode (rest.take length) with
      | .error e => .rejected e
      | .ok frame => .done frame (rest.drop length)

def readFrame (maximumFrameSize : ℕ) (stream : Bytes) : Reading GatewayFrame :=
  match validateMaximum maximumFrameSize with
  | .error e => .rejected e
  | .ok _ =>
    match readDigits [] stream with
    | .rejected e => .rejected e
    | .starved => .starved
    | .done digits rest => readBody decode maximumFrameSize digits rest

end Readers

end OnionRoute.GatewayProtocol
