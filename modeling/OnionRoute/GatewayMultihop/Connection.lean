import OnionRoute.GatewayMultihop.Handshake
import OnionRoute.GatewayProtocol.FlowOutcomes

/-! The calls by which one side of a connection sends: the credit ledger changes first. -/

namespace OnionRoute.GatewayMultihop

open Library
open GatewayProtocol (FlowController absoluteMaxFrameSize maxDataPayload maxStreamWindow)

inductive RejectCode
  | unspecified | policy | resourceExhausted | draining | revoked | incompatible
  deriving DecidableEq

def RejectCode.toInt32 : RejectCode → Int32
  | .unspecified => 0
  | .policy => 1
  | .resourceExhausted => 2
  | .draining => 3
  | .revoked => 4
  | .incompatible => 5

inductive CloseCode
  | unspecified | finished | cancelled | timeout | protocol | revoked
  deriving DecidableEq

def CloseCode.toInt32 : CloseCode → Int32
  | .unspecified => 0
  | .finished => 1
  | .cancelled => 2
  | .timeout => 3
  | .protocol => 4
  | .revoked => 5

def validateFrame (frame : InterGatewayFrame) (handshake : Bool) (limits : ProtocolLimits) :
    Result Unit := do
  if frame.sequence = 0 ∨ frame.version = none ∨ frame.body = none then throw .protocolViolation
  if handshake then
    if frame.connectionId.length > connectionIdSize then throw .protocolViolation
  else if frame.connectionId.length ≠ connectionIdSize then throw .protocolViolation
  if frame.encodedLen > limits.maximumFrameSize then throw .protocolViolation

/-- The wall clock is read twice. -/
def validateOpenSession (request : OpenSession) (limits : ProtocolLimits) (wall wall' : ℤ) :
    Result Unit := do
  if request.sessionId = 0 ∨ request.sessionId &&& 1 = 0 ∨ request.initialReceiveWindow = 0 ∨
      request.initialReceiveWindow.toNat > maxStreamWindow then
    throw .protocolViolation
  if request.expiresAtUnixSeconds ≤ (← unixNow wall) then throw .protocolViolation
  let now ← unixNow wall'
  let ttl := limits.maximumSessionTtl / nanosPerSecond
  if ttl ≥ 2 ^ 63 then throw .protocolViolation
  if request.expiresAtUnixSeconds.toInt > min (now.toInt + ttl) (2 ^ 63 - 1) then
    throw .protocolViolation
  let version ← okOr .protocolViolation request.terminalProtocolVersion
  if version.major = 0 ∨ version.major.toNat ≥ 2 ^ 16 ∨ version.minor.toNat ≥ 2 ^ 16 then
    throw .protocolViolation

structure Sender where
  connection : ProtocolConnection
  handed : List InterGatewayFrame

abbrev Sending (α : Type) := EStateM ErrorCode Sender α

namespace ProtocolConnection

def isDraining (c : ProtocolConnection) : Bool := c.localDraining || c.peerDraining

def frame (c : ProtocolConnection) (body : Body) : InterGatewayFrame where
  sequence := c.nextSendSequence
  version := some c.version.toWire
  connectionId := c.connectionId
  body := some body

/-- The failure, if any, is that of the transport. -/
def send (failure : Option ErrorCode) (body : Body) : Sending Unit := do
  let s ← get
  let frame := s.connection.frame body
  validateFrame frame false s.connection.limits
  checkFrameSize frame s.connection.limits.maximumFrameSize
  set { s with handed := s.handed ++ [frame] }
  match failure with
  | some e => throw e
  | none => pure ()
  if s.connection.nextSendSequence.toNat + 1 = 2 ^ 64 then throw .protocolViolation
  modify fun s => { s with
    connection := { s.connection with nextSendSequence := s.connection.nextSendSequence + 1 } }

def updateFlow (f : FlowController → GatewayProtocol.Result FlowController) : Sending Unit := do
  let s ← get
  let flow ← ((f s.connection.flow).mapError ErrorCode.ofProtocolError : Result FlowController)
  set { s with connection := { s.connection with flow } }

variable (failure : Option ErrorCode) (now : ℕ)

def openSession (wall wall' : ℤ) (request : OpenSession) : Sending Unit := do
  let s ← get
  if s.connection.localRole ≠ .entry ∨ s.connection.isDraining then throw .draining
  validateOpenSession request s.connection.limits wall wall'
  updateFlow (FlowController.openLocal request.sessionId request.initialReceiveWindow now)
  send failure (.openSession request)

def acceptSession (sessionId : UInt64) : Sending Unit := do
  let s ← get
  if s.connection.localRole ≠ .exit ∨ s.connection.localDraining then throw .draining
  let window := s.connection.limits.initialSessionWindow
  updateFlow (FlowController.acceptRemoteOpen sessionId window now)
  send failure (.sessionOpened ⟨sessionId, window⟩)

def rejectSession (sessionId : UInt64) (code : RejectCode) : Sending Unit := do
  let s ← get
  if s.connection.localRole ≠ .exit ∨ code = .unspecified then throw .protocolViolation
  updateFlow (FlowController.rejectOrClose sessionId)
  send failure (.sessionRejected ⟨sessionId, code.toInt32⟩)

def sendData (sessionId : UInt64) (payload : Bytes) : Sending ℕ := do
  if payload = [] then throw .protocolViolation
  let consumed := min payload.length maxDataPayload
  updateFlow (FlowController.debitSend sessionId consumed now)
  send failure (.data ⟨sessionId, payload.take consumed⟩)
  return consumed

def grantReceiveCredit (sessionId : UInt64) (credit : UInt32) : Sending Unit := do
  updateFlow (FlowController.grantReceiveCredit sessionId credit now)
  send failure (.windowUpdate ⟨sessionId, credit⟩)

def halfClose (sessionId : UInt64) : Sending Unit := do
  updateFlow (FlowController.localHalfClose sessionId now)
  send failure (.halfClose ⟨sessionId⟩)

def closeSession (sessionId : UInt64) (code : CloseCode) : Sending Unit := do
  if code = .unspecified then throw .protocolViolation
  updateFlow (FlowController.rejectOrClose sessionId)
  send failure (.closeSession ⟨sessionId, code.toInt32⟩)

end ProtocolConnection

inductive SendCall
  | openSession (wall wall' : ℤ) (request : OpenSession)
  | acceptSession (sessionId : UInt64)
  | rejectSession (sessionId : UInt64) (code : RejectCode)
  | sendData (sessionId : UInt64) (payload : Bytes)
  | grantReceiveCredit (sessionId : UInt64) (credit : UInt32)
  | halfClose (sessionId : UInt64)
  | closeSession (sessionId : UInt64) (code : CloseCode)

namespace SendCall

open ProtocolConnection

def perform (failure : Option ErrorCode) (now : ℕ) : SendCall → Sending Unit
  | .openSession wall wall' request => ProtocolConnection.openSession failure now wall wall' request
  | .acceptSession sessionId => ProtocolConnection.acceptSession failure now sessionId
  | .rejectSession sessionId code => ProtocolConnection.rejectSession failure sessionId code
  | .sendData sessionId payload => do
    let _ ← ProtocolConnection.sendData failure now sessionId payload
  | .grantReceiveCredit sessionId credit =>
    ProtocolConnection.grantReceiveCredit failure now sessionId credit
  | .halfClose sessionId => ProtocolConnection.halfClose failure now sessionId
  | .closeSession sessionId code => ProtocolConnection.closeSession failure sessionId code

/-- What a call checks before it asks the credit ledger. -/
def check (c : ProtocolConnection) : SendCall → Result Unit
  | .openSession wall wall' request =>
    if c.localRole ≠ .entry ∨ c.isDraining then .error .draining
    else validateOpenSession request c.limits wall wall'
  | .acceptSession _ => if c.localRole ≠ .exit ∨ c.localDraining then .error .draining else .ok ()
  | .rejectSession _ code =>
    if c.localRole ≠ .exit ∨ code = .unspecified then .error .protocolViolation else .ok ()
  | .sendData _ payload => if payload = [] then .error .protocolViolation else .ok ()
  | .closeSession _ code => if code = .unspecified then .error .protocolViolation else .ok ()
  | .grantReceiveCredit _ _ | .halfClose _ => .ok ()

def ledger (c : ProtocolConnection) (now : ℕ) :
    SendCall → FlowController → GatewayProtocol.Result FlowController
  | .openSession _ _ request =>
    FlowController.openLocal request.sessionId request.initialReceiveWindow now
  | .acceptSession sessionId =>
    FlowController.acceptRemoteOpen sessionId c.limits.initialSessionWindow now
  | .rejectSession sessionId _ | .closeSession sessionId _ => FlowController.rejectOrClose sessionId
  | .sendData sessionId payload =>
    FlowController.debitSend sessionId (min payload.length maxDataPayload) now
  | .grantReceiveCredit sessionId credit => FlowController.grantReceiveCredit sessionId credit now
  | .halfClose sessionId => FlowController.localHalfClose sessionId now

def body (c : ProtocolConnection) : SendCall → Body
  | .openSession _ _ request => .openSession request
  | .acceptSession sessionId => .sessionOpened ⟨sessionId, c.limits.initialSessionWindow⟩
  | .rejectSession sessionId code => .sessionRejected ⟨sessionId, code.toInt32⟩
  | .sendData sessionId payload =>
    .data ⟨sessionId, payload.take (min payload.length maxDataPayload)⟩
  | .grantReceiveCredit sessionId credit => .windowUpdate ⟨sessionId, credit⟩
  | .halfClose sessionId => .halfClose ⟨sessionId⟩
  | .closeSession sessionId code => .closeSession ⟨sessionId, code.toInt32⟩

end SendCall

structure ProtocolConnection.Fits (c : ProtocolConnection) (body : Body) : Prop where
  sequence : c.nextSendSequence ≠ 0
  maximum : c.limits.maximumFrameSize ≤ absoluteMaxFrameSize
  size : (c.frame body).encodedLen ≤ c.limits.maximumFrameSize

open ProtocolConnection

variable {s : Sender} {c : ProtocolConnection} {body : Body} {failure : Option ErrorCode} {now : ℕ}

lemma encodedLen_frame_pos (c : ProtocolConnection) (body : Body) :
    0 < (c.frame body).encodedLen := by
  have hkey : 0 < (GatewayProtocol.fieldKey 2 2).length := List.length_pos_iff.mpr (varint_ne_nil _)
  simp only [InterGatewayFrame.encodedLen, InterGatewayFrame.encode, ProtocolConnection.frame,
    GatewayProtocol.optionField, Option.elim_some, GatewayProtocol.delimited, List.length_append]
  omega

lemma fits_iff : c.Fits body ↔ validateFrame (c.frame body) false c.limits = .ok () ∧
    checkFrameSize (c.frame body) c.limits.maximumFrameSize = .ok () := by
  have hid : (c.frame body).connectionId.length = connectionIdSize := c.connectionId.2
  have hpresent : ¬ ((c.frame body).sequence = 0 ∨ (c.frame body).version = none ∨
      (c.frame body).body = none) ↔ c.nextSendSequence ≠ 0 := by
    simp [ProtocolConnection.frame]
  have hpos := encodedLen_frame_pos c body
  simp only [validateFrame, checkFrameSize, Bool.false_eq_true, if_false, guard_eq_ok,
    ite_throw_eq_ok, hpresent, hid]
  constructor
  · rintro ⟨hsequence, hmaximum, hsize⟩
    exact ⟨⟨hsequence, by simp, by omega, trivial⟩, by omega, by omega, trivial⟩
  · rintro ⟨⟨hsequence, -, hsize, -⟩, hmaximum, -⟩
    exact ⟨hsequence, by omega, by omega⟩

lemma send_fits (h : s.connection.Fits body) :
    Ends (send failure body) s (fun _ _ => True) fun t => t.handed ≠ s.handed := by
  obtain ⟨hvalid, hsize⟩ := fits_iff.mp h
  refine .get_bind (.lift_ok_bind hvalid (.lift_ok_bind hsize (.set_bind ?_)))
  have hhanded : s.handed ++ [s.connection.frame body] ≠ s.handed := by simp
  cases failure with
  | some e => exact hhanded
  | none => exact .guard (fun _ => hhanded) fun _ => .of_modify trivial

lemma send_not_fits (h : ¬ s.connection.Fits body) :
    ∃ e, send failure body s = .error e s := by
  rw [fits_iff, not_and_or] at h
  cases hvalid : validateFrame (s.connection.frame body) false s.connection.limits with
  | error e =>
    refine ⟨e, ?_⟩
    simp only [send, bind, EStateM.bind, state_get, hvalid]
    rfl
  | ok u =>
    cases hsize : checkFrameSize (s.connection.frame body) s.connection.limits.maximumFrameSize with
    | error e =>
      refine ⟨e, ?_⟩
      simp only [send, bind, EStateM.bind, state_get, hvalid, hsize]
      rfl
    | ok u => exact absurd h (by simp [hvalid, hsize])

lemma updateFlow_eq (f : FlowController → GatewayProtocol.Result FlowController) (s : Sender) :
    updateFlow f s =
      match f s.connection.flow with
      | .ok flow => .ok () { s with connection := { s.connection with flow } }
      | .error e => .error (.ofProtocolError e) s := by
  simp only [updateFlow, bind, EStateM.bind, state_get]
  cases f s.connection.flow <;> rfl

namespace SendCall

lemma perform_eq (call : SendCall) : call.perform failure now s =
    match call.check s.connection with
    | .error e => .error e s
    | .ok () => (do
        updateFlow (call.ledger s.connection now)
        send failure (call.body s.connection) : Sending Unit) s := by
  cases call with
  | openSession wall wall' request =>
    simp only [perform, ProtocolConnection.openSession, check, bind, EStateM.bind, state_get]
    split_ifs
    · rfl
    · cases validateOpenSession request s.connection.limits wall wall' <;> rfl
  | acceptSession sessionId =>
    simp only [perform, ProtocolConnection.acceptSession, check, bind, EStateM.bind, state_get]
    split_ifs <;> rfl
  | rejectSession sessionId code =>
    simp only [perform, ProtocolConnection.rejectSession, check, bind, EStateM.bind, state_get]
    split_ifs <;> rfl
  | sendData sessionId payload =>
    by_cases h : payload = []
    · simp only [perform, ProtocolConnection.sendData, check, if_pos h, bind, EStateM.bind]
      rfl
    · simp only [perform, ProtocolConnection.sendData, check, if_neg h, bind_assoc, pure_bind,
        bind_pure_unit]
      rfl
  | grantReceiveCredit sessionId credit => rfl
  | halfClose sessionId => rfl
  | closeSession sessionId code =>
    simp only [perform, ProtocolConnection.closeSession, check, bind, EStateM.bind]
    split_ifs <;> rfl

lemma putStream_ne {flow : FlowController} {k : UInt64} {stream next : GatewayProtocol.StreamState}
    (hs : flow.streams.lookup k = some stream) (hne : next ≠ stream) :
    flow.putStream k next ≠ flow := by
  intro h
  have hlookup := congrArg (fun f => f.streams.lookup k) h
  simp only [FlowController.lookup_putStream, if_true, hs, Option.map_some] at hlookup
  exact hne (Option.some.inj hlookup)

lemma ledger_ne (call : SendCall) {flow flow' : FlowController}
    (h : call.ledger c now flow = .ok flow') : flow' ≠ flow := by
  cases call with
  | openSession wall wall' request =>
    obtain ⟨-, -, hfresh, -, -, -, rfl⟩ := FlowController.insertNewStream_eq_ok h
    intro hsame
    have hlookup := congrArg (fun f => f.streams.lookup request.sessionId) hsame
    simp [hfresh] at hlookup
  | acceptSession sessionId =>
    obtain ⟨stream, hs, hphase, -, -, rfl⟩ := FlowController.acceptRemoteOpen_eq_ok h
    refine putStream_ne hs fun hsame => ?_
    rw [← hsame] at hphase
    cases hphase
  | rejectSession sessionId code | closeSession sessionId code =>
    obtain ⟨stream, hs, -, rfl⟩ := FlowController.rejectOrClose_eq_ok.mp h
    intro hsame
    have hlookup := congrArg (fun f => f.streams.lookup sessionId) hsame
    simp [hs] at hlookup
  | sendData sessionId payload =>
    obtain ⟨stream, -, -, -, hn, -, hwindow, -, rfl⟩ := FlowController.debitSend_eq_ok h
    intro hsame
    have hdebit := congrArg FlowController.connectionSendWindow hsame
    simp only at hdebit
    omega
  | grantReceiveCredit sessionId credit =>
    have hcredit : credit.toNat ≠ 0 := by
      have hguard := (guard_eq_ok.mp h).1
      rwa [← UInt32.toNat_inj] at hguard
    obtain ⟨-, -, rfl⟩ | ⟨stream, hs, -, -, rfl⟩ := FlowController.grantReceiveCredit_eq_ok h
    · intro hsame
      have hgrant := congrArg FlowController.connectionReceiveWindow hsame
      simp only at hgrant
      omega
    · refine putStream_ne hs fun hsame => ?_
      have hgrant := congrArg GatewayProtocol.StreamState.receiveWindow hsame
      simp only at hgrant
      omega
  | halfClose sessionId =>
    obtain ⟨stream, hs, -, hopen, -, rfl⟩ := FlowController.localHalfClose_eq_ok h
    refine putStream_ne hs fun hsame => ?_
    rw [← hsame] at hopen
    cases hopen

/-- A call that fails before a byte is given to the transport leaves the connection as it was
exactly when it was refused before the credit ledger changed, or its frame fits. -/
theorem refused_untouched_iff (call : SendCall) (failure : Option ErrorCode) (now : ℕ)
    (s : Sender) :
    (∀ e t, call.perform failure now s = .error e t → t.handed = s.handed →
      t.connection = s.connection) ↔
      (∃ e, call.check s.connection = .error e) ∨
        (∃ e, call.ledger s.connection now s.connection.flow = .error e) ∨
          s.connection.Fits (call.body s.connection) := by
  rw [perform_eq]
  cases hcheck : call.check s.connection with
  | error e =>
    refine ⟨fun _ => .inl ⟨e, rfl⟩, fun _ e' t herror _ => ?_⟩
    cases herror
    rfl
  | ok u =>
    simp only [bind, EStateM.bind, updateFlow_eq]
    cases hledger : call.ledger s.connection now s.connection.flow with
    | error e =>
      refine ⟨fun _ => .inr (.inl ⟨e, rfl⟩), fun _ e' t herror _ => ?_⟩
      cases herror
      rfl
    | ok flow =>
      let charged : Sender := { s with connection := { s.connection with flow } }
      have hfits : charged.connection.Fits (call.body s.connection) ↔
          s.connection.Fits (call.body s.connection) :=
        ⟨fun h => ⟨h.sequence, h.maximum, h.size⟩, fun h => ⟨h.sequence, h.maximum, h.size⟩⟩
      constructor
      · intro huntouched
        by_contra hrefused
        simp only [reduceCtorEq, exists_false, false_or] at hrefused
        obtain ⟨e, herror⟩ : ∃ e, send failure (call.body s.connection) charged = .error e charged :=
          send_not_fits (hfits.not.mpr hrefused)
        exact call.ledger_ne hledger (congrArg ProtocolConnection.flow (huntouched e _ herror rfl))
      · rintro (⟨e, h⟩ | ⟨e, h⟩ | h)
        · cases h
        · cases h
        · intro e t herror hhanded
          have hends : Ends (send failure (call.body s.connection)) charged _ _ :=
            send_fits (hfits.mpr h)
          have herror : send failure (call.body s.connection) charged = .error e t := herror
          rw [Ends, herror] at hends
          exact absurd hhanded hends

end SendCall

def sampleSender : Sender where
  connection := {
    localRole := .entry
    peer := ⟨"exit-1", .exit, .interGatewayDataPlane, 0, 3600 * nanosPerSecond⟩
    version := ⟨1, 0⟩
    connectionId := ⟨List.replicate 16 7, rfl⟩
    nextSendSequence := 3
    nextReceiveSequence := 3
    limits := { ProtocolLimits.default with maximumFrameSize := 256 }
    flow := ⟨1000, 1000, 4, 1, (∅ : Table UInt64 _).insert 1 ⟨.open, 1000, 1000, false, false, 0⟩⟩
    localDraining := false
    peerDraining := false }
  handed := []

/-- Data that the frames cannot hold is refused after its credit is gone. -/
theorem SendCall.credit_lost :
    sampleSender.connection.flow.connectionSendWindow = 1000 ∧
      Ends (SendCall.perform none 0 (.sendData 1 (List.replicate 300 0))) sampleSender
        (fun _ _ => False)
        fun t => t.handed = [] ∧ t.connection.flow.connectionSendWindow = 700 := by
  decide +kernel

end OnionRoute.GatewayMultihop
