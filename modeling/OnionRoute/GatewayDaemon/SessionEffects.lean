import OnionRoute.GatewayDaemon.RunSession

/-! The ways in which the handlers of a session change its state, whether they succeed or fail. -/

namespace OnionRoute.GatewayDaemon

open Library

inductive Cause
  | body (body : Body)
  | event (event : StreamEvent)

def Cause.Plain : Cause → Prop
  | .body (.openTcpRequest _) => False
  | .body (.halfClose _) => False
  | .body (.resetStream _) => False
  | _ => True

def Body.Unrelated : Body → Prop
  | .dnsResponse _ => True
  | .pong _ => True
  | _ => False

namespace SessionState

def logged (s : SessionState) (body : Body) (serverSequence : UInt64) : SessionState :=
  { s with serverSequence, log := s.log ++ [.sent body] }

def receive (s : SessionState) (frame : GatewayFrame) : SessionState :=
  { s with log := s.log ++ [.received frame] }

variable (ctx : SessionContext) (s : SessionState)

inductive Effect : Cause → Bool → SessionState → Prop
  | rejected {c : Cause} : Effect c false s
  | ignored {event : StreamEvent} : Effect (.event event) true s
  | raised {request : OpenTcpRequest} (hnew : s.highestStreamId < request.streamId) :
      Effect (.body (.openTcpRequest request)) false { s with highestStreamId := request.streamId }
  | refused {request : OpenTcpRequest} {ok : Bool} {status : ErrorStatus} {n : UInt64}
      (hnew : s.highestStreamId < request.streamId) :
      Effect (.body (.openTcpRequest request)) ok
        (logged { s with highestStreamId := request.streamId }
          (.openTcpResponse ⟨request.streamId, false, some status⟩) n)
  | dialing {request : OpenTcpRequest} (hnew : s.highestStreamId < request.streamId)
      (hroom : s.streams.size + s.pending.card < ctx.limits.maxStreamsPerSession) :
      Effect (.body (.openTcpRequest request)) true
        { s with
          highestStreamId := request.streamId
          pending := insert request.streamId s.pending
          dials := s.dials ++ [(request.streamId, request.initialWindow.toNat)] }
  | written {data : Data} {ok : Bool} {stream : ActiveStream} {n : UInt64}
      (hstream : s.streams.lookup data.streamId = some stream) (hopen : stream.localClosed = false) :
      Effect (.body (.data data)) ok
        (logged (s.update data.streamId stream)
          (.windowUpdate ⟨data.streamId, UInt32.ofNat data.payload.length⟩) n)
  | granted {update : WindowUpdate} {stream : ActiveStream} {credit : FlowCredit}
      (hstream : s.streams.lookup update.streamId = some stream)
      (hcredit : stream.reader.credit.grant update.credit.toNat = .ok credit) :
      Effect (.body (.windowUpdate update)) true
        (s.update update.streamId { stream with reader := { stream.reader with credit } })
  | closing {close : HalfClose} {stream : ActiveStream}
      (hstream : s.streams.lookup close.streamId = some stream) (hopen : stream.localClosed = false)
      (hremote : stream.remoteClosed = false) :
      Effect (.body (.halfClose close)) true
        (s.update close.streamId { stream with localClosed := true })
  | closed {close : HalfClose} {stream : ActiveStream}
      (hstream : s.streams.lookup close.streamId = some stream) (hopen : stream.localClosed = false)
      (hremote : stream.remoteClosed = true) :
      Effect (.body (.halfClose close)) true
        (remove (s.update close.streamId { stream with localClosed := true }) close.streamId)
  | reset {reset : ResetStream} {stream : ActiveStream}
      (hstream : s.streams.lookup reset.streamId = some stream) :
      Effect (.body (.resetStream reset)) true (s.remove reset.streamId)
  | answered {c : Cause} {ok : Bool} {body : Body} {n : UInt64} (hplain : c.Plain)
      (hbody : body.Unrelated) : Effect c ok (s.logged body n)
  | dropped {c : Cause} {id : UInt64} {stream : ActiveStream} (hplain : c.Plain)
      (hstream : s.streams.lookup id = some stream) : Effect c false (s.remove id)
  | failed {c : Cause} {id : UInt64} {ok : Bool} {stream : ActiveStream} {status : ErrorStatus}
      {n : UInt64} (hplain : c.Plain) (hstream : s.streams.lookup id = some stream) :
      Effect c ok ((s.remove id).logged (.resetStream ⟨id, some status⟩) n)
  | opened {id : UInt64} {window : ℕ} {ok : Bool} {n : UInt64} (hpending : id ∈ s.pending) :
      Effect (.event (.opened id window (.ok ()))) ok
        (logged (update { s with pending := s.pending.erase id } id (startStream ctx id window))
          (.openTcpResponse ⟨id, true, .none⟩) n)
  | forgotten {c : Cause} {id : UInt64} (hplain : c.Plain) (hpending : id ∈ s.pending) :
      Effect c false { s with pending := s.pending.erase id }
  | notOpened {id : UInt64} {window : ℕ} {e : GatewayErrorCode} {ok : Bool} {status : ErrorStatus}
      {n : UInt64} (hpending : id ∈ s.pending) :
      Effect (.event (.opened id window (.error e))) ok
        (logged { s with pending := s.pending.erase id }
          (.openTcpResponse ⟨id, false, some status⟩) n)
  | delivered {id : UInt64} {payload : Bytes} {ok : Bool} {stream : ActiveStream} {n : UInt64}
      (hstream : s.streams.lookup id = some stream) :
      Effect (.event (.data id payload)) ok (s.logged (.data ⟨id, payload⟩) n)
  | remoteClosing {id : UInt64} {ok : Bool} {stream : ActiveStream} {n : UInt64}
      (hstream : s.streams.lookup id = some stream)
      (hopen : ok = true → stream.localClosed = false) :
      Effect (.event (.halfClosed id)) ok
        (logged (s.update id { stream with remoteClosed := true }) (.halfClose ⟨id⟩) n)
  | remoteClosed {id : UInt64} {stream : ActiveStream} {n : UInt64}
      (hstream : s.streams.lookup id = some stream) :
      Effect (.event (.halfClosed id)) true
        (remove (logged (s.update id { stream with remoteClosed := true }) (.halfClose ⟨id⟩) n) id)

end SessionState

def SessionState.tornDown (s : SessionState) (report : Option ErrorStatus) : SessionState :=
  { s with
    streams := ∅
    aborted := s.aborted ++ s.streams.values.map ActiveStream.reader
    log := s.log ++ (report.map fun status => LogEntry.sent (.error status)).toList }

lemma RunSession.finish_eq (o : Outcomes) (result : GatewayResult Unit) (s : RunSession) :
    ∃ report r, s.finish o result =
      { s with state := s.state.tornDown report, returned := some r } := by
  rcases result with e | u
  · cases hid : o.correlationId with
    | error e' => exact ⟨none, .error e', by simp [finish, SessionState.tornDown, hid]⟩
    | ok id => exact ⟨some (e.toStatus id), .error e, by simp [finish, SessionState.tornDown, hid]⟩
  · exact ⟨none, .ok (), by simp [finish, SessionState.tornDown]⟩

open SessionState (Effect logged)

variable {ctx : SessionContext} {o : Outcomes} {s : SessionState}

lemma sendBody_ends {body : Body} {fail : SessionState → Prop} {post : Unit → SessionState → Prop}
    (hpost : ∀ n, post () (s.logged body n)) (hfail : ∀ n, fail (s.logged body n)) :
    Ends (sendBody o body) s post fail := by
  rw [sendBody]
  refine Ends.modify_bind (Ends.lift_bind (fun _ _ => Ends.get_bind ?_) (hfail _))
  exact Ends.guard (fun _ => hfail _) fun _ => Ends.of_set (hpost _)

lemma handleOpenTcp_ends (request : OpenTcpRequest) :
    Ends (handleOpenTcp ctx o request) s
      (fun _ t => Effect ctx s (.body (.openTcpRequest request)) true t)
      (Effect ctx s (.body (.openTcpRequest request)) false) := by
  rw [handleOpenTcp]
  refine Ends.get_bind (Ends.guard (fun _ => .rejected) fun hvalid => ?_)
  simp only [not_or, UInt64.not_le, ge_iff_le, not_le] at hvalid
  obtain ⟨-, -, hnew, -, -, -, -, hroom⟩ := hvalid
  refine Ends.lift_bind (fun _ _ => Ends.modify_bind ?_) .rejected
  split
  next =>
    refine Ends.lift_bind (fun _ _ => ?_) (.raised hnew)
    exact sendBody_ends (fun _ => .refused hnew) fun _ => .refused hnew
  next => exact Ends.of_modify (.dialing hnew hroom)

lemma handleData_ends (data : Data) :
    Ends (handleData ctx o data) s (fun _ t => Effect ctx s (.body (.data data)) true t)
      (Effect ctx s (.body (.data data)) false) := by
  rw [handleData]
  refine Ends.guard (fun _ => .rejected) fun _ => Ends.get_bind ?_
  cases hstream : s.streams.lookup data.streamId with
  | none => exact Ends.of_throw .rejected
  | some stream =>
    refine Ends.guard (fun _ => .rejected) fun hvalid => Ends.lift_bind (fun _ _ => ?_) .rejected
    obtain ⟨hopen, hcredit⟩ := not_or.mp hvalid
    split
    next =>
      have hsame : { stream with inboundCredit :=
          stream.inboundCredit - data.payload.length + data.payload.length } = stream := by
        rw [Nat.sub_add_cancel (not_lt.mp hcredit)]
      rw [hsame]
      have hopen := Bool.eq_false_iff.mpr hopen
      refine Ends.set_bind ?_
      exact sendBody_ends (fun _ => .written hstream hopen) fun _ => .written hstream hopen
    next =>
      refine Ends.set_bind (Ends.lift_bind (fun _ _ => ?_) (.dropped trivial hstream))
      exact sendBody_ends (fun _ => .failed trivial hstream) fun _ => .failed trivial hstream

lemma handleWindowUpdate_ends (update : WindowUpdate) :
    Ends (handleWindowUpdate update) s
      (fun _ t => Effect ctx s (.body (.windowUpdate update)) true t)
      (Effect ctx s (.body (.windowUpdate update)) false) := by
  rw [handleWindowUpdate]
  refine Ends.guard (fun _ => .rejected) fun _ => Ends.get_bind ?_
  cases hstream : s.streams.lookup update.streamId with
  | none => exact Ends.of_throw .rejected
  | some stream =>
    exact Ends.lift_bind (fun credit hcredit => Ends.of_set (.granted hstream hcredit)) .rejected

lemma handleHalfClose_ends (close : HalfClose) :
    Ends (handleHalfClose o close) s (fun _ t => Effect ctx s (.body (.halfClose close)) true t)
      (Effect ctx s (.body (.halfClose close)) false) := by
  rw [handleHalfClose]
  refine Ends.get_bind ?_
  cases hstream : s.streams.lookup close.streamId with
  | none => exact Ends.of_throw .rejected
  | some stream =>
    refine Ends.guard (fun _ => .rejected) fun hopen => Ends.lift_bind (fun _ _ => ?_) .rejected
    have hopen := Bool.eq_false_iff.mpr hopen
    split
    next hremote => exact Ends.of_set (.closed hstream hopen hremote)
    next hremote => exact Ends.of_set (.closing hstream hopen (Bool.eq_false_iff.mpr hremote))

lemma handleResetStream_ends (reset : ResetStream) :
    Ends (handleResetStream reset) s
      (fun _ t => Effect ctx s (.body (.resetStream reset)) true t)
      (Effect ctx s (.body (.resetStream reset)) false) := by
  rw [handleResetStream]
  refine Ends.get_bind ?_
  cases hstream : s.streams.lookup reset.streamId with
  | none => exact Ends.of_throw .rejected
  | some stream => exact Ends.of_set (.reset hstream)

lemma handleDnsQuery_ends (query : DnsQuery) :
    Ends (handleDnsQuery ctx o query) s (fun _ t => Effect ctx s (.body (.dnsQuery query)) true t)
      (Effect ctx s (.body (.dnsQuery query)) false) := by
  rw [handleDnsQuery]
  refine Ends.guard (fun _ => .rejected) fun _ => Ends.guard (fun _ => .rejected) fun _ => ?_
  refine Ends.lift_bind (fun _ _ => ?_) .rejected
  exact sendBody_ends (fun _ => .answered trivial trivial) fun _ => .answered trivial trivial

lemma handlePing_ends (ping : Ping) :
    Ends (handlePing o ping) s (fun _ t => Effect ctx s (.body (.ping ping)) true t)
      (Effect ctx s (.body (.ping ping)) false) := by
  rw [handlePing]
  refine Ends.guard (fun _ => .rejected) fun _ => ?_
  exact sendBody_ends (fun _ => .answered trivial trivial) fun _ => .answered trivial trivial

lemma handleBody_ends (body : Body) :
    Ends (handleBody ctx o body) s (fun _ t => Effect ctx s (.body body) true t)
      (Effect ctx s (.body body) false) := by
  cases body with
  | openTcpRequest request => exact handleOpenTcp_ends request
  | data data => exact handleData_ends data
  | windowUpdate update => exact handleWindowUpdate_ends update
  | halfClose close => exact handleHalfClose_ends close
  | resetStream reset => exact handleResetStream_ends reset
  | dnsQuery query => exact handleDnsQuery_ends query
  | ping ping => exact handlePing_ends ping
  | _ => exact Ends.of_throw .rejected

lemma handleClientFrame_ends (frame : GatewayFrame) :
    Ends (handleClientFrame ctx o frame) s
      (fun _ t => ∃ body, frame.body = some body ∧ Effect ctx (s.receive frame) (.body body) true t)
      (fun t => t = s.receive frame ∨
        ∃ body, frame.body = some body ∧ Effect ctx (s.receive frame) (.body body) false t) := by
  rw [handleClientFrame]
  refine Ends.modify_bind ?_
  cases frame.body with
  | none => exact Ends.of_throw (.inl rfl)
  | some body =>
    exact (handleBody_ends body).mono (fun _ t h => ⟨body, rfl, h⟩) fun t h => .inr ⟨body, rfl, h⟩

lemma handleStreamEvent_ends (event : StreamEvent) :
    Ends (handleStreamEvent ctx o event) s (fun _ t => Effect ctx s (.event event) true t)
      (Effect ctx s (.event event) false) := by
  cases event with
  | opened id window result =>
    rw [handleStreamEvent]
    refine Ends.get_bind ?_
    split
    next hpending =>
      cases result with
      | ok u =>
        refine Ends.set_bind ?_
        exact sendBody_ends (fun _ => .opened hpending) fun _ => .opened hpending
      | error e =>
        refine Ends.set_bind (Ends.lift_bind (fun _ _ => ?_) (.forgotten trivial hpending))
        exact sendBody_ends (fun _ => .notOpened hpending) fun _ => .notOpened hpending
    next => exact Ends.of_pure .ignored
  | data id payload =>
    rw [handleStreamEvent]
    refine Ends.get_bind ?_
    split
    next hmem =>
      obtain ⟨stream, hstream⟩ := Table.contains_iff.mp hmem
      exact sendBody_ends (fun _ => .delivered hstream) fun _ => .delivered hstream
    next => exact Ends.of_pure .ignored
  | halfClosed id =>
    rw [handleStreamEvent]
    refine Ends.get_bind ?_
    cases hstream : s.streams.lookup id with
    | none => exact Ends.of_pure .ignored
    | some stream =>
      refine Ends.set_bind ?_
      have hsend : Ends (sendBody o (.halfClose ⟨id⟩)) (s.update id { stream with remoteClosed := true })
          (fun _ t => ∃ n,
            t = logged (s.update id { stream with remoteClosed := true }) (.halfClose ⟨id⟩) n)
          (Effect ctx s (.event (.halfClosed id)) false) :=
        sendBody_ends (fun n => ⟨n, rfl⟩) fun _ => .remoteClosing hstream nofun
      refine Ends.bind hsend ?_
      rintro _ _ ⟨n, rfl⟩
      split
      next => exact Ends.of_modify (.remoteClosed hstream)
      next hopen =>
        exact Ends.of_pure (.remoteClosing hstream fun _ => Bool.eq_false_iff.mpr hopen)
  | failed id e =>
    rw [handleStreamEvent]
    refine Ends.get_bind ?_
    cases hstream : s.streams.lookup id with
    | none => exact Ends.of_pure .ignored
    | some stream =>
      refine Ends.set_bind (Ends.lift_bind (fun _ _ => ?_) (.dropped trivial hstream))
      exact sendBody_ends (fun _ => .failed trivial hstream) fun _ => .failed trivial hstream

namespace RunSession

variable (ctx) (decode : Bytes → Option GatewayFrame)

def consume (s : RunSession) (byte : UInt8) (rest : Bytes) : RunSession :=
  { s with unread := rest, consumed := s.consumed ++ [byte] }

inductive Moves (s : RunSession) : Event → RunSession → Prop
  | arrive (bytes : Bytes) : Moves s (.arrive bytes) { s with unread := s.unread ++ bytes }
  | readFailed {o : Outcomes} {byte : UInt8} {rest : Bytes} {e : GatewayErrorCode}
      (hunread : s.unread = byte :: rest)
      (hpush : s.call.push decode ctx.limits.maxFrameBytes byte = .error e) :
      Moves s (.read o) ((s.consume byte rest).leave e)
  | readMore {o : Outcomes} {byte : UInt8} {rest : Bytes} {call : ReadFrame}
      (hunread : s.unread = byte :: rest)
      (hpush : s.call.push decode ctx.limits.maxFrameBytes byte = .ok (none, call)) :
      Moves s (.read o) { s.consume byte rest with call }
  | refused {o : Outcomes} {byte : UInt8} {rest : Bytes} {frame : GatewayFrame} {call : ReadFrame}
      {e : GatewayErrorCode} (hunread : s.unread = byte :: rest)
      (hpush : s.call.push decode ctx.limits.maxFrameBytes byte = .ok (some frame, call))
      (henvelope : validateEnvelope frame s.clientSequence ctx.sessionId = .error e) :
      Moves s (.read o) (finish o (.error e) { s.consume byte rest with call })
  | overflow {o : Outcomes} {byte : UInt8} {rest : Bytes} {frame : GatewayFrame} {call : ReadFrame}
      (hunread : s.unread = byte :: rest)
      (hpush : s.call.push decode ctx.limits.maxFrameBytes byte = .ok (some frame, call))
      (henvelope : validateEnvelope frame s.clientSequence ctx.sessionId = .ok ())
      (hmax : s.clientSequence = maxSequence) :
      Moves s (.read o) (leave .protocolViolation { s.consume byte rest with call })
  | frame {o : Outcomes} {byte : UInt8} {rest : Bytes} {frame : GatewayFrame} {call : ReadFrame}
      (hunread : s.unread = byte :: rest)
      (hpush : s.call.push decode ctx.limits.maxFrameBytes byte = .ok (some frame, call))
      (henvelope : validateEnvelope frame s.clientSequence ctx.sessionId = .ok ())
      (hmax : s.clientSequence ≠ maxSequence) :
      Moves s (.read o)
        (handled o { s.consume byte rest with call, clientSequence := s.clientSequence + 1 }
          (handleClientFrame ctx o frame s.state))
  | endOfFile {o : Outcomes} (hunread : s.unread = []) (hcall : s.call = .first) :
      Moves s (.endOfFile o) (s.finish o (.ok ()))
  | cutOff {o : Outcomes} (hunread : s.unread = []) (hcall : s.call ≠ .first) :
      Moves s (.endOfFile o) (s.leave .protocolViolation)
  | readError : Moves s .readError (s.leave .protocolViolation)
  | expire (o : Outcomes) : Moves s (.expire o) (s.finish o (.error .sessionExpired))
  | idle (o : Outcomes) : Moves s (.idle o) (s.finish o (.error .timeout))
  | receive {o : Outcomes} {event : StreamEvent} {rest : List StreamEvent}
      (hchannel : s.channel = event :: rest) :
      Moves s (.receive o)
        (handled o { s with channel := rest, call := .first }
          (handleStreamEvent ctx o event s.state))
  | dialed {task : ℕ} {streamId : UInt64} {initialWindow : ℕ} {result : GatewayResult Unit}
      (hdial : s.state.dials[task]? = some (streamId, initialWindow)) :
      Moves s (.dialed task result)
        { s with
          state := { s.state with dials := s.state.dials.eraseIdx task }
          channel := s.channel ++ [.opened streamId initialWindow result] }
  | pump {streamId : UInt64} {action : ReaderTask.Action} {stream : ActiveStream}
      {reader : ReaderTask} {event : Option StreamEvent}
      (hstream : s.state.streams.lookup streamId = some stream)
      (hpump : stream.reader.pump ctx.limits.maxDataBytes action = some (reader, event)) :
      Moves s (.pump streamId action)
        { s with
          state := s.state.update streamId { stream with reader }
          channel := s.channel ++ event.toList }
  | linger {task : ℕ} {action : ReaderTask.Action} {old reader : ReaderTask}
      {event : Option StreamEvent} (htask : s.state.aborted[task]? = some old)
      (hpump : old.pump ctx.limits.maxDataBytes action = some (reader, event)) :
      Moves s (.linger task action)
        { s with
          state := { s.state with aborted := s.state.aborted.set task reader }
          channel := s.channel ++ event.toList }

variable {ctx decode} {s t : RunSession}

lemma moves_read {byte : UInt8} {rest : Bytes} (o : Outcomes) (hunread : s.unread = byte :: rest) :
    Moves ctx decode s (.read o) (read ctx decode o s byte rest) := by
  rw [read]
  cases hpush : s.call.push decode ctx.limits.maxFrameBytes byte with
  | error e => exact .readFailed hunread hpush
  | ok next =>
    obtain ⟨frame, call⟩ := next
    cases frame with
    | none => exact .readMore hunread hpush
    | some frame =>
      simp only [onFrame]
      cases henvelope : validateEnvelope frame s.clientSequence ctx.sessionId with
      | error e => exact .refused hunread hpush henvelope
      | ok u =>
        by_cases hmax : s.clientSequence = maxSequence
        · rw [if_pos hmax]
          exact .overflow hunread hpush henvelope hmax
        · rw [if_neg hmax]
          exact .frame hunread hpush henvelope hmax

lemma Step.moves {e : Event} (h : Step ctx decode s e t) : Moves ctx decode s e t := by
  obtain ⟨-, hact⟩ := h
  cases e with
  | arrive bytes =>
    obtain rfl := Option.some.inj hact
    exact .arrive bytes
  | read o =>
    rw [act] at hact
    cases hunread : s.unread with
    | nil => simp [hunread] at hact
    | cons byte rest =>
      rw [hunread] at hact
      obtain rfl := Option.some.inj hact
      exact moves_read o hunread
  | endOfFile o =>
    rw [act.eq_def] at hact
    simp only at hact
    split at hact
    next hunread hcall =>
      obtain rfl := Option.some.inj hact
      exact .endOfFile hunread hcall
    next hunread hcall =>
      obtain rfl := Option.some.inj hact
      exact .cutOff hunread hcall
    next => cases hact
  | readError =>
    obtain rfl := Option.some.inj hact
    exact .readError
  | expire o =>
    obtain rfl := Option.some.inj hact
    exact .expire o
  | idle o =>
    obtain rfl := Option.some.inj hact
    exact .idle o
  | receive o =>
    rw [act] at hact
    cases hchannel : s.channel with
    | nil => simp [hchannel] at hact
    | cons event rest =>
      rw [hchannel] at hact
      obtain rfl := Option.some.inj hact
      exact .receive hchannel
  | dialed task result =>
    rw [act] at hact
    split at hact
    next => cases hact
    next hdial =>
      obtain rfl := Option.some.inj hact
      exact .dialed hdial
  | pump streamId action =>
    rw [act] at hact
    split at hact
    next => cases hact
    next hstream =>
      split at hact
      next => cases hact
      next hpump =>
        obtain rfl := Option.some.inj hact
        exact .pump hstream hpump
  | linger task action =>
    rw [act] at hact
    split at hact
    next => cases hact
    next htask =>
      split at hact
      next => cases hact
      next hpump =>
        obtain rfl := Option.some.inj hact
        exact .linger htask hpump

end RunSession

end OnionRoute.GatewayDaemon
