import OnionRoute.GatewayDaemon.FrameIntegrity
import OnionRoute.GatewayDaemon.Resolver

/-! What the failure of an egress connection or of a lookup does to the rest of the session. -/

namespace OnionRoute.GatewayDaemon

open Library

section Resolver

variable (config : DnsConfig) (parsesAsIp : Bytes → Bool) (upstream : Bytes → GatewayResult Bytes)
  (acl : IpAddr → AclEngine)

def exchangeWire (query : Bytes) : GatewayResult Bytes := do
  let question ← validateClientQuery parsesAsIp query config.maxResponseBytes
  let response ← upstream query
  let parsed ← parseResponse response question.id question.name config.maxRecords
  if parsed.cnameDepth > config.maxCnameDepth then throw .dnsFailure
  for address in parsed.allAddresses do
    checkAddress acl address
  return response

def LookupSucceeds (query : Bytes) : Prop :=
  ∃ question response parsed,
    validateClientQuery parsesAsIp query config.maxResponseBytes = .ok question ∧
    upstream query = .ok response ∧
    parseResponse response question.id question.name config.maxRecords = .ok parsed ∧
    parsed.cnameDepth ≤ config.maxCnameDepth ∧
    ∀ address ∈ parsed.allAddresses, (acl address).checkIp address = .ok ()

variable {config parsesAsIp upstream acl}

lemma exists_exchangeWire_iff {query : Bytes} :
    (∃ response, exchangeWire config parsesAsIp upstream acl query = .ok response) ↔
      LookupSucceeds config parsesAsIp upstream acl query := by
  simp only [exchangeWire, bind_eq_ok, guard_eq_ok, forIn_eq_ok, checkAddress_eq_ok, pure_eq_ok,
    not_lt]
  constructor
  · rintro ⟨_, question, hquestion, response, hresponse, parsed, hparsed, hdepth, -, haddresses, -⟩
    exact ⟨question, response, parsed, hquestion, hresponse, hparsed, hdepth, haddresses⟩
  · rintro ⟨question, response, parsed, hquestion, hresponse, hparsed, hdepth, haddresses⟩
    exact ⟨response, question, hquestion, response, hresponse, parsed, hparsed, hdepth, ⟨⟩,
      haddresses, rfl⟩

end Resolver

structure Outcomes.Serves (o : Outcomes) (s : SessionState) : Prop where
  write : o.write = .ok ()
  correlationId : ∃ id, o.correlationId = .ok id
  bandwidth : o.bandwidth = .ok ()
  sequence : s.serverSequence ≠ maxSequence

def SessionState.Accepts (ctx : SessionContext) (config : DnsConfig) (parsesAsIp : Bytes → Bool)
    (s : SessionState) : Body → Prop
  | .openTcpRequest request =>
    ¬ (request.streamId = 0 ∨ request.streamId % 2 = 0 ∨ request.streamId ≤ s.highestStreamId ∨
      request.port = 0 ∨ request.port > 65535 ∨ request.initialWindow = 0 ∨
      request.initialWindow.toNat > ctx.limits.maxStreamWindow ∨
      s.streams.size + s.pending.card ≥ ctx.limits.maxStreamsPerSession) ∧
    ∃ destination, decodeDestination request.destination = .ok destination
  | .data data => data.payload ≠ [] ∧ data.payload.length ≤ ctx.limits.maxDataBytes ∧
    ∃ stream, s.streams.lookup data.streamId = some stream ∧ stream.localClosed = false ∧
      data.payload.length ≤ stream.inboundCredit
  | .windowUpdate update => update.credit ≠ 0 ∧
    ∃ stream credit, s.streams.lookup update.streamId = some stream ∧
      stream.reader.credit.grant update.credit.toNat = .ok credit
  | .halfClose close => ∃ stream, s.streams.lookup close.streamId = some stream ∧
    stream.localClosed = false
  | .resetStream reset => ∃ stream, s.streams.lookup reset.streamId = some stream
  | .dnsQuery query => ctx.hasCapability "dns-wire-v1" ∧ query.wireQuery ≠ [] ∧
    query.wireQuery.length ≤ 64 * 1024 ∧
    ∃ question, validateClientQuery parsesAsIp query.wireQuery config.maxResponseBytes = .ok question
  | .ping ping => 16 ≤ ping.nonce.length ∧ ping.nonce.length ≤ 32
  | _ => False

def Body.stream? : Body → Option UInt64
  | .openTcpRequest message => some message.streamId
  | .data message => some message.streamId
  | .windowUpdate message => some message.streamId
  | .halfClose message => some message.streamId
  | .resetStream message => some message.streamId
  | _ => none

def StreamEvent.streamId : StreamEvent → UInt64
  | .opened streamId _ _ => streamId
  | .data streamId _ => streamId
  | .halfClosed streamId => streamId
  | .failed streamId _ => streamId

structure Isolated (o : Outcomes) (m : SessionM Unit) (r : RunSession) (subject : Option UInt64) :
    Prop where
  succeeds : ∃ t, m r.state = .ok () t
  continues : (r.handled o (m r.state)).returned = none
  others : ∀ id, some id ≠ subject →
    (r.handled o (m r.state)).state.streams.lookup id = r.state.streams.lookup id

def Keeps (m : SessionM Unit) (s : SessionState) (subject : Option UInt64) : Prop :=
  Ends m s (fun _ t => ∀ id, some id ≠ subject → t.streams.lookup id = s.streams.lookup id)
    fun _ => False

variable {ctx : SessionContext} {o : Outcomes} {m : SessionM Unit} {s t : SessionState}
  {r : RunSession} {subject : Option UInt64}

lemma Keeps.isolated (h : Keeps m r.state subject) (hrunning : r.returned = none) :
    Isolated o m r subject := by
  obtain ⟨_, t, hm, hothers⟩ := h.exists_ok
  have hhandled : r.handled o (m r.state) = { r with state := t } := by rw [hm]; rfl
  exact ⟨⟨t, hm⟩, by rw [hhandled]; exact hrunning, by rw [hhandled]; exact hothers⟩

lemma Outcomes.Serves.congr (h : o.Serves s) (hsequence : t.serverSequence = s.serverSequence) :
    o.Serves t :=
  ⟨h.write, h.correlationId, h.bandwidth, by rw [hsequence]; exact h.sequence⟩

variable {post : Unit → SessionState → Prop}

lemma sendBody_succeeds {body : Body} (h : o.Serves s) (hpost : ∀ n, post () (s.logged body n)) :
    Ends (sendBody o body) s post fun _ => False := by
  rw [sendBody]
  refine Ends.modify_bind (Ends.lift_ok_bind h.write (Ends.get_bind ?_))
  exact Ends.guard (fun hmax => h.sequence hmax) fun _ => Ends.of_set (hpost _)

lemma sendReset_succeeds {streamId : UInt64} {error : GatewayErrorCode} (h : o.Serves s)
    (hpost : ∀ body n, post () (s.logged body n)) :
    Ends (sendReset o streamId error) s post fun _ => False := by
  obtain ⟨correlationId, hid⟩ := h.correlationId
  rw [sendReset]
  exact Ends.lift_ok_bind hid (sendBody_succeeds h fun n => hpost _ n)

section Handlers

variable {config : DnsConfig} {parsesAsIp : Bytes → Bool}

lemma handleOpenTcp_keeps {request : OpenTcpRequest} (hserves : o.Serves s)
    (h : s.Accepts ctx config parsesAsIp (.openTcpRequest request)) :
    Keeps (handleOpenTcp ctx o request) s (some request.streamId) := by
  obtain ⟨hvalid, destination, hdestination⟩ := h
  obtain ⟨correlationId, hid⟩ := hserves.correlationId
  rw [Keeps, handleOpenTcp]
  refine Ends.get_bind (Ends.guard (fun hbad => hvalid hbad) fun _ => ?_)
  refine Ends.lift_ok_bind hdestination (Ends.modify_bind ?_)
  split
  next =>
    refine Ends.lift_ok_bind hid (sendBody_succeeds (hserves.congr rfl) fun n => ?_)
    exact fun _ _ => rfl
  next => exact Ends.of_modify fun _ _ => rfl

lemma handleData_keeps {data : Data} (hserves : o.Serves s)
    (h : s.Accepts ctx config parsesAsIp (.data data)) :
    Keeps (handleData ctx o data) s (some data.streamId) := by
  obtain ⟨hne, hlen, stream, hstream, hopen, hcredit⟩ := h
  rw [Keeps, handleData]
  refine Ends.guard (fun hbad => ?_) fun _ => Ends.get_bind ?_
  · exact hbad.elim hne (not_lt.mpr hlen)
  · rw [hstream]
    refine Ends.guard (fun hbad => ?_) fun _ => Ends.lift_ok_bind hserves.bandwidth ?_
    · exact hbad.elim (by simp [hopen]) (not_lt.mpr hcredit)
    · split
      next =>
        refine Ends.set_bind (sendBody_succeeds (hserves.congr rfl) fun n id hid => ?_)
        exact Table.lookup_insert_of_ne _ (fun h => hid (congrArg some h)) _
      next =>
        refine Ends.set_bind (sendReset_succeeds (hserves.congr rfl) fun body n id hid => ?_)
        exact Table.lookup_erase_of_ne _ fun h => hid (congrArg some h)

lemma handleWindowUpdate_keeps {update : WindowUpdate}
    (h : s.Accepts ctx config parsesAsIp (.windowUpdate update)) :
    Keeps (handleWindowUpdate update) s (some update.streamId) := by
  obtain ⟨hpos, stream, credit, hstream, hcredit⟩ := h
  rw [Keeps, handleWindowUpdate]
  refine Ends.guard (fun hbad => hpos hbad) fun _ => Ends.get_bind ?_
  rw [hstream]
  refine Ends.lift_ok_bind hcredit (Ends.of_set fun id hid => ?_)
  exact Table.lookup_insert_of_ne _ (fun h => hid (congrArg some h)) _

lemma handleHalfClose_keeps {close : HalfClose}
    (h : s.Accepts ctx config parsesAsIp (.halfClose close)) (hshutdown : o.shutdown = .done) :
    Keeps (handleHalfClose o close) s (some close.streamId) := by
  obtain ⟨stream, hstream, hopen⟩ := h
  have hdone : o.shutdown.result = .ok () := by rw [hshutdown]; rfl
  have hother : ∀ (table : Table UInt64 ActiveStream) id, some id ≠ some close.streamId →
      (table.insert close.streamId { stream with localClosed := true }).lookup id =
        table.lookup id := fun table id hid =>
    Table.lookup_insert_of_ne _ (fun h => hid (congrArg some h)) _
  rw [Keeps, handleHalfClose]
  refine Ends.get_bind ?_
  rw [hstream]
  refine Ends.guard (fun hbad => by simp [hopen] at hbad) fun _ => Ends.lift_ok_bind hdone ?_
  split
  next =>
    refine Ends.of_set fun id hid => ?_
    exact (Table.lookup_erase_of_ne _ fun h => hid (congrArg some h)).trans (hother _ id hid)
  next => exact Ends.of_set (hother _)

lemma handleHalfClose_ok (close : HalfClose) :
    Ends (handleHalfClose o close) s (fun _ _ => o.shutdown = .done) fun _ => True := by
  rw [handleHalfClose]
  refine Ends.get_bind ?_
  cases s.streams.lookup close.streamId with
  | none => exact Ends.of_throw trivial
  | some stream =>
    refine Ends.guard (fun _ => trivial) fun _ => Ends.lift_bind (fun _ hresult => ?_) trivial
    have hdone : o.shutdown = .done := by
      cases hshutdown : o.shutdown with
      | done => rfl
      | timedOut | failed => rw [hshutdown] at hresult; cases hresult
    split
    next => exact Ends.of_set hdone
    next => exact Ends.of_set hdone

lemma handleResetStream_keeps {reset : ResetStream}
    (h : s.Accepts ctx config parsesAsIp (.resetStream reset)) :
    Keeps (handleResetStream reset) s (some reset.streamId) := by
  obtain ⟨stream, hstream⟩ := h
  rw [Keeps, handleResetStream]
  refine Ends.get_bind ?_
  rw [hstream]
  exact Ends.of_set fun id hid => Table.lookup_erase_of_ne _ fun h => hid (congrArg some h)

lemma handleDnsQuery_keeps {query : DnsQuery} {response : Bytes} (hserves : o.Serves s)
    (h : s.Accepts ctx config parsesAsIp (.dnsQuery query))
    (hresponse : o.exchangeWire query.wireQuery = .ok response) :
    Keeps (handleDnsQuery ctx o query) s none := by
  obtain ⟨hcapability, hne, hlen, -⟩ := h
  rw [Keeps, handleDnsQuery]
  refine Ends.guard (fun hbad => by simp [hcapability] at hbad) fun _ => ?_
  refine Ends.guard (fun hbad => hbad.elim hne (not_lt.mpr hlen)) fun _ => ?_
  exact Ends.lift_ok_bind hresponse (sendBody_succeeds hserves fun _ _ _ => rfl)

lemma handleDnsQuery_ok (query : DnsQuery) :
    Ends (handleDnsQuery ctx o query) s
      (fun _ _ => ∃ response, o.exchangeWire query.wireQuery = .ok response) fun _ => True := by
  rw [handleDnsQuery]
  refine Ends.guard (fun _ => trivial) fun _ => Ends.guard (fun _ => trivial) fun _ => ?_
  refine Ends.lift_bind (fun response hresponse => ?_) trivial
  exact sendBody_ends (fun _ => ⟨response, hresponse⟩) fun _ => trivial

lemma handlePing_keeps {ping : Ping} (hserves : o.Serves s)
    (h : s.Accepts ctx config parsesAsIp (.ping ping)) :
    Keeps (handlePing o ping) s none := by
  rw [Keeps, handlePing]
  exact Ends.guard (fun hbad => hbad h) fun _ => sendBody_succeeds hserves fun _ _ _ => rfl

lemma handleStreamEvent_keeps (hserves : o.Serves s) (event : StreamEvent) :
    Keeps (handleStreamEvent ctx o event) s (some event.streamId) := by
  obtain ⟨correlationId, hid⟩ := hserves.correlationId
  cases event with
  | opened id window result =>
    rw [Keeps, handleStreamEvent]
    refine Ends.get_bind ?_
    split
    next =>
      cases result with
      | ok u =>
        refine Ends.set_bind (sendBody_succeeds (hserves.congr rfl) fun n other hother => ?_)
        exact Table.lookup_insert_of_ne _ (fun h => hother (congrArg some h)) _
      | error e =>
        refine Ends.set_bind (Ends.lift_ok_bind hid ?_)
        exact sendBody_succeeds (hserves.congr rfl) fun _ _ _ => rfl
    next => exact Ends.of_pure fun _ _ => rfl
  | data id payload =>
    rw [Keeps, handleStreamEvent]
    refine Ends.get_bind ?_
    split
    next => exact sendBody_succeeds hserves fun _ _ _ => rfl
    next => exact Ends.of_pure fun _ _ => rfl
  | halfClosed id =>
    rw [Keeps, handleStreamEvent]
    refine Ends.get_bind ?_
    cases s.streams.lookup id with
    | none => exact Ends.of_pure fun _ _ => rfl
    | some stream =>
      refine Ends.set_bind ?_
      have hsend : Ends (sendBody o (.halfClose ⟨id⟩))
          (s.update id { stream with remoteClosed := true })
          (fun _ t => ∀ other, some other ≠ some id →
            t.streams.lookup other = s.streams.lookup other) fun _ => False :=
        sendBody_succeeds (hserves.congr rfl) fun n other hother =>
          Table.lookup_insert_of_ne _ (fun h => hother (congrArg some h)) _
      refine Ends.bind hsend fun _ t ht => ?_
      split
      next =>
        refine Ends.of_modify fun other hother => ?_
        exact (Table.lookup_erase_of_ne _ fun h => hother (congrArg some h)).trans (ht other hother)
      next => exact Ends.of_pure ht
  | failed id e =>
    rw [Keeps, handleStreamEvent]
    refine Ends.get_bind ?_
    cases s.streams.lookup id with
    | none => exact Ends.of_pure fun _ _ => rfl
    | some stream =>
      refine Ends.set_bind (sendReset_succeeds (hserves.congr rfl) fun body n other hother => ?_)
      exact Table.lookup_erase_of_ne _ fun h => hother (congrArg some h)

end Handlers

def Outcomes.Harmless (config : DnsConfig) (parsesAsIp : Bytes → Bool)
    (upstream : Bytes → GatewayResult Bytes) (acl : IpAddr → AclEngine) (o : Outcomes) : Body → Prop
  | .halfClose _ => o.shutdown = .done
  | .dnsQuery query => LookupSucceeds config parsesAsIp upstream acl query.wireQuery
  | _ => True

section Frames

variable {config : DnsConfig} {parsesAsIp : Bytes → Bool} {upstream : Bytes → GatewayResult Bytes}
  {acl : IpAddr → AclEngine} {body : Body} {frame : GatewayFrame}

lemma handleBody_keeps (hserves : o.Serves s)
    (hresolver : o.exchangeWire = exchangeWire config parsesAsIp upstream acl)
    (h : s.Accepts ctx config parsesAsIp body)
    (hharmless : o.Harmless config parsesAsIp upstream acl body) :
    Keeps (handleBody ctx o body) s body.stream? := by
  cases body with
  | openTcpRequest request => exact handleOpenTcp_keeps hserves h
  | data data => exact handleData_keeps hserves h
  | windowUpdate update => exact handleWindowUpdate_keeps h
  | halfClose close => exact handleHalfClose_keeps h hharmless
  | resetStream reset => exact handleResetStream_keeps h
  | dnsQuery query =>
    obtain ⟨response, hresponse⟩ := exists_exchangeWire_iff.mpr hharmless
    exact handleDnsQuery_keeps hserves h (hresolver ▸ hresponse)
  | ping ping => exact handlePing_keeps hserves h
  | _ => exact h.elim

lemma harmless_of_ok (hresolver : o.exchangeWire = exchangeWire config parsesAsIp upstream acl)
    (h : handleBody ctx o body s = .ok () t) : o.Harmless config parsesAsIp upstream acl body := by
  cases body with
  | halfClose close => exact (handleHalfClose_ok close).of_ok h
  | dnsQuery query =>
    have hresponse := (handleDnsQuery_ok query).of_ok h
    rw [hresolver] at hresponse
    exact exists_exchangeWire_iff.mp hresponse
  | _ => trivial

lemma handleClientFrame_eq (hbody : frame.body = some body) :
    handleClientFrame ctx o frame s = handleBody ctx o body (s.receive frame) := by
  rw [handleClientFrame, hbody]
  rfl

lemma accepts_receive (h : s.Accepts ctx config parsesAsIp body) :
    (s.receive frame).Accepts ctx config parsesAsIp body := by
  cases body <;> exact h

end Frames

/-- In every session whose client can be served, a frame that passes the checks of its handler leaves
the session running and the other streams alone, if and only if it is not a half-close whose shutdown
fails and not a query whose lookup fails. An event of a stream always does. -/
theorem failure_isolated_iff (ctx : SessionContext) {config : DnsConfig} {parsesAsIp : Bytes → Bool}
    {upstream : Bytes → GatewayResult Bytes} {acl : IpAddr → AclEngine} {o : Outcomes}
    {r : RunSession} (hrunning : r.returned = none) (hserves : o.Serves r.state)
    (hresolver : o.exchangeWire = exchangeWire config parsesAsIp upstream acl) :
    (∀ frame body, frame.body = some body → r.state.Accepts ctx config parsesAsIp body →
      (Isolated o (handleClientFrame ctx o frame) r body.stream? ↔
        o.Harmless config parsesAsIp upstream acl body)) ∧
      ∀ event, Isolated o (handleStreamEvent ctx o event) r (some event.streamId) := by
  refine ⟨fun frame body hbody haccepts => ⟨fun h => ?_, fun hharmless => ?_⟩, fun event => ?_⟩
  · obtain ⟨t, ht⟩ := h.succeeds
    rw [handleClientFrame_eq hbody] at ht
    exact harmless_of_ok hresolver ht
  · have hkeeps : Keeps (handleBody ctx o body) (r.state.receive frame) body.stream? :=
      handleBody_keeps (hserves.congr rfl) hresolver (accepts_receive haccepts) hharmless
    refine Keeps.isolated ?_ hrunning
    rw [Keeps, Ends, handleClientFrame_eq hbody]
    exact hkeeps
  · exact (handleStreamEvent_keeps hserves event).isolated hrunning

namespace Sample

def twoStreams : RunSession :=
  { RunSession.start 5 5 with
    state := { (RunSession.start 5 5).state with
      streams := (AList.insert 1 (startStream sessionContext 1 5) ∅).insert 3
        (startStream sessionContext 3 5)
      highestStreamId := 3 } }

def silent (_ : Bytes) : GatewayResult Bytes := .error .timeout

def broken : Outcomes :=
  ⟨.ok (), .ok [], .ok (), false, .failed, exchangeWire dnsConfig noText silent fun _ => .standard⟩

def lookupQuery : Bytes := [0, 7, 1, 0, 0, 1, 0, 0, 0, 0, 0, 0, 1, 97, 1, 98, 0, 0, 1, 0, 1]

lemma lookupQuery_valid :
    validateClientQuery noText lookupQuery (16 * 1024) = .ok ⟨7, ascii "a.b"⟩ := by
  decide +kernel

lemma broken_serves : broken.Serves twoStreams.state :=
  ⟨rfl, ⟨[], rfl⟩, rfl, by decide⟩

def lostData : GatewayFrame := frameOf 5 (.data ⟨1, [1]⟩)

def lastData : GatewayFrame := frameOf 5 (.halfClose ⟨1⟩)

def lookupFrame : GatewayFrame := frameOf 5 (.dnsQuery ⟨1, lookupQuery⟩)

lemma accepts_lostData :
    twoStreams.state.Accepts sessionContext {} noText (.data ⟨1, [1]⟩) :=
  ⟨by decide, by decide, startStream sessionContext 1 5, rfl, rfl, by decide⟩

lemma accepts_lastData : twoStreams.state.Accepts sessionContext {} noText (.halfClose ⟨1⟩) :=
  ⟨startStream sessionContext 1 5, rfl, rfl⟩

lemma accepts_lookup :
    twoStreams.state.Accepts sessionContext {} noText (.dnsQuery ⟨1, lookupQuery⟩) :=
  ⟨by decide +kernel, by decide, by decide, _, lookupQuery_valid⟩

def after (frame : GatewayFrame) : RunSession :=
  twoStreams.handled broken (handleClientFrame sessionContext broken frame twoStreams.state)

lemma after_lastData :
    (after lastData).returned = some (.error .egressFailure) ∧
      ((after lastData).state.streams.lookup 3).isNone = true := by
  decide +kernel

lemma after_lookup :
    (after lookupFrame).returned = some (.error .timeout) ∧
      ((after lookupFrame).state.streams.lookup 3).isNone = true := by
  decide +kernel

end Sample

open Sample in
theorem failure_isolated_write :
    Isolated broken (handleClientFrame sessionContext broken lostData)
        twoStreams (some 1) ∧
      Isolated broken
        (handleStreamEvent sessionContext broken (.failed 1 .egressFailure))
        twoStreams (some 1) := by
  have h := failure_isolated_iff sessionContext rfl broken_serves rfl
  exact ⟨(h.1 lostData _ rfl accepts_lostData).mpr trivial, h.2 _⟩

open Sample in
/-- A shutdown that fails and a lookup that times out end the session, and with it the other
stream. -/
theorem failure_ends_session :
    twoStreams.state.Accepts sessionContext {} noText (.halfClose ⟨1⟩) ∧
      (after lastData).returned = some (.error .egressFailure) ∧
      (after lastData).state.streams.lookup 3 = none ∧
      twoStreams.state.Accepts sessionContext {} noText
        (.dnsQuery ⟨1, lookupQuery⟩) ∧
      (after lookupFrame).returned = some (.error .timeout) ∧
      (after lookupFrame).state.streams.lookup 3 = none := by
  obtain ⟨hclosed, hgone⟩ := after_lastData
  obtain ⟨htimeout, hlost⟩ := after_lookup
  exact ⟨accepts_lastData, hclosed, Option.isNone_iff_eq_none.mp hgone,
    accepts_lookup, htimeout, Option.isNone_iff_eq_none.mp hlost⟩

end OnionRoute.GatewayDaemon
