import OnionRoute.GatewayDaemon.SessionHandlers

/-! The loop of a session: it waits for a frame and for an event at once. -/

namespace OnionRoute.GatewayDaemon

open Library

/-- Where a call of `read_frame` stands. The bytes it has read are nowhere else. -/
inductive ReadFrame
  | first
  | digits (length shift prefixBytes : ℕ)
  | body (length : ℕ) (encoded : Bytes)
  deriving DecidableEq

namespace ReadFrame

def canonicalPrefixBytes (length : ℕ) : ℕ :=
  if length < 2 ^ 7 then 1
  else if length < 2 ^ 14 then 2
  else if length < 2 ^ 21 then 3
  else if length < 2 ^ 28 then 4
  else 5

def afterDigit (maxFrameBytes : ℕ) (byte : UInt8) (length shift prefixBytes : ℕ) :
    GatewayResult ReadFrame :=
  if byte &&& 0x80 ≠ 0 ∧ prefixBytes < 5 then .ok (.digits length shift prefixBytes)
  else if byte &&& 0x80 ≠ 0 ∨ length = 0 ∨ length > maxFrameBytes then .error .messageTooLarge
  else if prefixBytes ≠ canonicalPrefixBytes length then .error .protocolViolation
  else .ok (.body length [])

def push (decode : Bytes → Option GatewayFrame) (maxFrameBytes : ℕ) (call : ReadFrame)
    (byte : UInt8) : GatewayResult (Option GatewayFrame × ReadFrame) :=
  match call with
  | .first => do
    let next ← afterDigit maxFrameBytes byte (byte &&& 0x7f).toNat 7 1
    pure (none, next)
  | .digits length shift prefixBytes => do
    let length := length ||| (byte &&& 0x7f).toNat <<< shift
    let next ← afterDigit maxFrameBytes byte length (shift + 7) (prefixBytes + 1)
    pure (none, next)
  | .body length encoded =>
    let encoded := encoded ++ [byte]
    if encoded.length < length then .ok (none, .body length encoded)
    else
      match decode encoded with
      | none => .error .protocolViolation
      | some frame => .ok (some frame, .first)

end ReadFrame

def protocolMajor : UInt32 := 1
def protocolMinor : UInt32 := 0

def validateEnvelope (frame : GatewayFrame) (expectedSequence : UInt64) (sessionId : Bytes) :
    GatewayResult Unit :=
  match frame.version with
  | none => .error .protocolViolation
  | some version =>
    if version.major ≠ protocolMajor ∨ version.minor ≠ protocolMinor ∨
        frame.sequence ≠ expectedSequence ∨ frame.sessionId ≠ sessionId then
      .error .protocolViolation
    else .ok ()

/-- A session in its loop: the bytes of the client still to be read and those read, the channel of
the events, and what `run_session` has returned. -/
structure RunSession where
  clientSequence : UInt64
  state : SessionState
  call : ReadFrame
  unread : Bytes
  consumed : Bytes
  channel : List StreamEvent
  returned : Option (GatewayResult Unit)

namespace RunSession

def start (clientSequence serverSequence : UInt64) : RunSession where
  clientSequence := clientSequence
  state := ⟨serverSequence, ∅, ∅, 0, [], [], []⟩
  call := .first
  unread := []
  consumed := []
  channel := []
  returned := none

/-- The loop is left by `break`: the readers are aborted, and an error is reported to the client. -/
def finish (o : Outcomes) (result : GatewayResult Unit) (s : RunSession) : RunSession :=
  let state := { s.state with
    streams := ∅, aborted := s.state.aborted ++ s.state.streams.values.map ActiveStream.reader }
  match result with
  | .ok () => { s with state, returned := some (.ok ()) }
  | .error error =>
    match o.correlationId with
    | .error e => { s with state, returned := some (.error e) }
    | .ok correlationId =>
      let report := LogEntry.sent (.error (error.toStatus correlationId))
      { s with state := { state with log := state.log ++ [report] }, returned := some (.error error) }

def leave (error : GatewayErrorCode) (s : RunSession) : RunSession :=
  { s with returned := some (.error error) }

def handled (o : Outcomes) (s : RunSession) : EStateM.Result GatewayErrorCode SessionState Unit →
    RunSession
  | .ok _ state => { s with state }
  | .error e state => finish o (.error e) { s with state }

variable (ctx : SessionContext) (decode : Bytes → Option GatewayFrame)

def onFrame (o : Outcomes) (frame : GatewayFrame) (s : RunSession) : RunSession :=
  match validateEnvelope frame s.clientSequence ctx.sessionId with
  | .error e => s.finish o (.error e)
  | .ok () =>
    if s.clientSequence = maxSequence then s.leave .protocolViolation
    else
      handled o { s with clientSequence := s.clientSequence + 1 }
        (handleClientFrame ctx o frame s.state)

inductive Event
  | arrive (bytes : Bytes)
  | read (o : Outcomes)
  | endOfFile (o : Outcomes)
  | readError
  | expire (o : Outcomes)
  | idle (o : Outcomes)
  | receive (o : Outcomes)
  | dialed (task : ℕ) (result : GatewayResult Unit)
  | pump (streamId : UInt64) (action : ReaderTask.Action)
  | linger (task : ℕ) (action : ReaderTask.Action)

def read (o : Outcomes) (s : RunSession) (byte : UInt8) (rest : Bytes) : RunSession :=
  let s := { s with unread := rest, consumed := s.consumed ++ [byte] }
  match s.call.push decode ctx.limits.maxFrameBytes byte with
  | .error e => s.leave e
  | .ok (none, call) => { s with call }
  | .ok (some frame, call) => onFrame ctx o frame { s with call }

def receive (o : Outcomes) (s : RunSession) (event : StreamEvent) (rest : List StreamEvent) :
    RunSession :=
  let s := { s with channel := rest, call := .first }
  handled o s (handleStreamEvent ctx o event s.state)

def act (s : RunSession) : Event → Option RunSession
  | .arrive bytes => some { s with unread := s.unread ++ bytes }
  | .read o =>
    match s.unread with
    | [] => none
    | byte :: rest => some (read ctx decode o s byte rest)
  | .endOfFile o =>
    match s.unread, s.call with
    | [], .first => some (s.finish o (.ok ()))
    | [], _ => some (s.leave .protocolViolation)
    | _ :: _, _ => none
  | .readError => some (s.leave .protocolViolation)
  | .expire o => some (s.finish o (.error .sessionExpired))
  | .idle o => some (s.finish o (.error .timeout))
  | .receive o =>
    match s.channel with
    | [] => none
    | event :: rest => some (receive ctx o s event rest)
  | .dialed task result =>
    match s.state.dials[task]? with
    | none => none
    | some (streamId, initialWindow) =>
      some { s with
        state := { s.state with dials := s.state.dials.eraseIdx task }
        channel := s.channel ++ [.opened streamId initialWindow result] }
  | .pump streamId action =>
    match s.state.streams.lookup streamId with
    | none => none
    | some stream =>
      match stream.reader.pump ctx.limits.maxDataBytes action with
      | none => none
      | some (reader, event) =>
        some { s with
          state := s.state.update streamId { stream with reader }
          channel := s.channel ++ event.toList }
  | .linger task action =>
    match s.state.aborted[task]? with
    | none => none
    | some reader =>
      match reader.pump ctx.limits.maxDataBytes action with
      | none => none
      | some (reader, event) =>
        some { s with
          state := { s.state with aborted := s.state.aborted.set task reader }
          channel := s.channel ++ event.toList }

def Step (s : RunSession) (e : Event) (t : RunSession) : Prop :=
  s.returned = none ∧ s.act ctx decode e = some t

def runEvents : RunSession → List Event → Option RunSession
  | s, [] => some s
  | s, e :: es => if s.returned.isNone then (s.act ctx decode e).bind (runEvents · es) else none

variable {ctx decode}

lemma trace_of_runEvents {s t : RunSession} {es : List Event}
    (h : runEvents ctx decode s es = some t) : Trace (Step ctx decode) s es t := by
  induction es generalizing s with
  | nil =>
    obtain rfl := Option.some.inj h
    exact .nil _
  | cons e es ih =>
    rw [runEvents] at h
    split at h
    next hnone =>
      obtain ⟨u, hu, hrest⟩ := Option.bind_eq_some_iff.mp h
      exact .cons ⟨Option.isNone_iff_eq_none.mp hnone, hu⟩ (ih hrest)
    next => cases h

end RunSession

end OnionRoute.GatewayDaemon
