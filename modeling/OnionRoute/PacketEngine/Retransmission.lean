import OnionRoute.PacketEngine.Runs

/-! A segment sent again is ignored, except that repeated data after the FIN resets the flow. -/

namespace OnionRoute.PacketEngine

open Library PacketProcessor

def Drained (buffer : Bytes) : Prop :=
  buffer.length < 2 ∨ (u16At buffer 0).toNat ≠ 0 ∧
    (u16At buffer 0).toNat ≤ maxDnsMessageBytes ∧ buffer.length < (u16At buffer 0).toNat + 2

namespace SegmentProgress

variable {config : EngineConfig} {segment : TcpSegment} {p : SegmentProgress}

lemma drainDns_of_drained (h : Drained p.flow.dnsBuffer) (maxPendingDns rounds : ℕ) :
    drainDns maxPendingDns rounds p = p := by
  cases rounds with
  | zero => rfl
  | succ rounds =>
    simp only [drainDns]
    rcases h with h | ⟨h0, hmax, hlen⟩
    · rw [if_pos h]
    · split_ifs with h1 h2
      · rfl
      · exact absurd h2 (by omega)
      · rfl

lemma drainDns_drained (maxPendingDns rounds : ℕ) (hr : p.flow.dnsBuffer.length ≤ rounds) :
    (drainDns maxPendingDns rounds p).resetAfter = true ∨
      Drained (drainDns maxPendingDns rounds p).flow.dnsBuffer := by
  induction rounds generalizing p with
  | zero =>
    right
    left
    simp only [drainDns]
    omega
  | succ rounds ih =>
    simp only [drainDns]
    split_ifs with h1 h2 h3 h4
    · exact .inr (.inl h1)
    · exact .inl rfl
    · exact .inr (.inr ⟨by omega, by omega, h3⟩)
    · exact .inl rfl
    · apply ih
      simp only [emit_flow, List.length_drop]
      omega

lemma resolveQueries_drained (config : EngineConfig)
    (h : p.flow.dnsTcp = false → Drained p.flow.dnsBuffer) :
    (p.resolveQueries config).resetAfter = true ∨
      Drained (p.resolveQueries config).flow.dnsBuffer := by
  simp only [resolveQueries]
  split_ifs with hd
  · exact drainDns_drained _ _ le_rfl
  · cases hdns : p.flow.dnsTcp with
    | false => exact .inr (h hdns)
    | true =>
      left
      simpa [hdns] using hd

lemma receiveAcknowledgement_dnsBuffer :
    (p.receiveAcknowledgement segment).flow.dnsBuffer = p.flow.dnsBuffer := by
  have hcases := receiveAcknowledgement_cases segment p
  generalize p.receiveAcknowledgement segment = q at hcases
  cases hcases <;> rfl

lemma receivePayload_dnsBuffer (h : p.flow.dnsTcp = false) :
    (p.receivePayload config segment).flow.dnsBuffer = p.flow.dnsBuffer := by
  have hcases := receivePayload_cases config segment p
  generalize p.receivePayload config segment = q at hcases
  cases hcases with
  | buffered _ _ _ _ hd =>
    rw [h] at hd
    cases hd
  | _ => rfl

lemma receiveFin_dnsBuffer (config : EngineConfig) (segment : TcpSegment) (p : SegmentProgress) :
    (p.receiveFin config segment).flow.dnsBuffer = p.flow.dnsBuffer ∧
      (p.receiveFin config segment).resetAfter = p.resetAfter := by
  have hcases := receiveFin_cases config segment p
  generalize p.receiveFin config segment = q at hcases
  cases hcases <;> exact ⟨rfl, rfl⟩

lemma receiveContent_drained (h : Drained p.flow.dnsBuffer) :
    (p.receiveContent config segment).remove = true ∨
      Drained (p.receiveContent config segment).flow.dnsBuffer := by
  have hpay : (p.receivePayload config segment).flow.dnsTcp = false →
      Drained (p.receivePayload config segment).flow.dnsBuffer := by
    intro hd
    have hp : p.flow.dnsTcp = false := (receivePayload_dnsTcp config segment p).symm.trans hd
    rwa [receivePayload_dnsBuffer hp]
  have hq := resolveQueries_drained config hpay
  obtain ⟨hbuffer, hreset⟩ := receiveFin_dnsBuffer config segment
    ((p.receivePayload config segment).resolveQueries config)
  simp only [receiveContent, finish]
  rw [← hreset, ← hbuffer] at hq
  split_ifs with hr
  · exact .inl rfl
  · exact .inr (hq.resolve_left hr)

lemma receiveData_drained (config : EngineConfig) (segment : TcpSegment)
    (h : Drained p.flow.dnsBuffer) :
    (FlowRecord.receiveData config segment p).remove = true ∨
      Drained (FlowRecord.receiveData config segment p).flow.dnsBuffer := by
  have hcases := receiveData_cases config segment p
  generalize FlowRecord.receiveData config segment p = q at hcases
  cases hcases with
  | unacknowledged => exact .inr h
  | completed => exact .inl rfl
  | content =>
    apply receiveContent_drained
    rwa [receiveAcknowledgement_dnsBuffer]

end SegmentProgress

namespace FlowRecord

open SegmentProgress

lemma receiveSegment_drained (config : EngineConfig) {flow : FlowRecord} (pendingDns : PendingDns)
    (nextDnsId : UInt64) (segment : TcpSegment) (now : ℕ) (h : Drained flow.dnsBuffer) :
    (flow.receiveSegment config pendingDns nextDnsId segment now).remove = true ∨
      Drained (flow.receiveSegment config pendingDns nextDnsId segment now).flow.dnsBuffer := by
  have hcases := receiveSegment_cases config pendingDns nextDnsId segment now flow
  generalize flow.receiveSegment config pendingDns nextDnsId segment now = q at hcases
  cases hcases with
  | repeatedSyn => exact .inr h
  | connecting => exact .inr h
  | unanswered => exact .inr h
  | data =>
    apply receiveData_drained
    simp only [establish]
    split_ifs <;> exact h

lemma step_drained (config : EngineConfig) (flow : FlowRecord) (event : FlowEvent)
    (next : FlowRecord) (h : Drained flow.dnsBuffer)
    (hn : (flow.step config event).1 = some next) : Drained next.dnsBuffer := by
  by_cases hseg : ∃ pendingDns nextDnsId segment now,
      event = .segment pendingDns nextDnsId segment now
  · obtain ⟨pendingDns, nextDnsId, segment, now, rfl⟩ := hseg
    simp only [step] at hn
    split_ifs at hn with hr
    obtain rfl := Option.some.inj hn
    exact (receiveSegment_drained config pendingDns nextDnsId segment now h).resolve_left hr
  · rw [(step_client_of_not_segment config (fun a b c d he => hseg ⟨a, b, c, d, he⟩) hn).2.2]
    exact h

end FlowRecord

lemma Run.drained {config : EngineConfig} {events : List Event} {s : PacketProcessor}
    (h : Run config events s) {e : Event} (he : e ∈ events) {key : FlowKey} {flow : FlowRecord}
    (hf : e.before.flows.lookup key = some flow) : Drained flow.dnsBuffer := by
  refine Run.flow_invariant_before (P := fun f => Drained f.dnsBuffer) ?_
    (FlowRecord.step_drained config) h he hf
  intro s key call flow _ ho
  cases ho <;> exact .inl Nat.two_pos

def FlowRecord.Repeats (flow : FlowRecord) (segment : TcpSegment) : Prop :=
  segment.payload.length + (if segment.flags.fin then 1 else 0) ≤
      serialOffset segment.sequence flow.clientNext ∧
    serialOffset segment.sequence flow.clientNext ≤ 2147483648

namespace SegmentProgress

variable {config : EngineConfig} {segment : TcpSegment} {flow : FlowRecord} {p : SegmentProgress}

structure Quiet (config : EngineConfig) (flow : FlowRecord) (p : SegmentProgress) : Prop where
  resetAfter : p.resetAfter = false
  remove : p.remove = false
  same : FlowRecord.Same flow p.flow
  clientNext : p.flow.clientNext = flow.clientNext
  state : p.flow.state = flow.state
  dnsBuffer : p.flow.dnsBuffer = flow.dnsBuffer
  actions : ∀ a ∈ p.actions, (∃ code, a = p.flow.diagnostic code) ∨
    ∃ g, FlowRecord.Same flow g ∧ a = g.ackAction config

namespace Quiet

variable (h : Quiet config flow p)
include h

lemma finAccepted : p.flow.finAccepted = flow.finAccepted := by
  rw [FlowRecord.finAccepted, FlowRecord.finAccepted, h.state]

lemma answer (code : DiagnosticCode) :
    Quiet config flow (p.emit [p.flow.diagnostic code, p.flow.ackAction config]) := by
  refine ⟨h.resetAfter, h.remove, h.same, h.clientNext, h.state, h.dnsBuffer, fun a ha => ?_⟩
  rcases List.mem_append.mp ha with ha | ha
  · exact h.actions a ha
  · simp only [List.mem_cons, List.not_mem_nil, or_false] at ha
    rcases ha with rfl | rfl
    · exact .inl ⟨code, rfl⟩
    · exact .inr ⟨p.flow, h.same, rfl⟩

lemma receiveAcknowledgement
    (hack : sequenceBefore p.flow.serverNext segment.acknowledgement = false) :
    Quiet config flow (p.receiveAcknowledgement segment) := by
  have hcases := receiveAcknowledgement_cases segment p
  generalize p.receiveAcknowledgement segment = q at hcases
  cases hcases with
  | ahead _ hb =>
    rw [hack] at hb
    cases hb
  | cleared =>
    exact ⟨h.resetAfter, h.remove, h.same.trans ⟨rfl, rfl, rfl, rfl⟩, h.clientNext, h.state,
      h.dnsBuffer, h.actions⟩
  | kept => exact h

lemma receivePayload (hrep : flow.Repeats segment)
    (hopen : segment.payload = [] ∨ flow.finAccepted = false) :
    Quiet config flow (p.receivePayload config segment) := by
  have hcases := receivePayload_cases config segment p
  generalize p.receivePayload config segment = q at hcases
  -- repeated data begins strictly before the next byte, in the code's own order
  have hbefore : segment.payload ≠ [] → segment.sequence ≠ p.flow.clientNext ∧
      sequenceBefore segment.sequence p.flow.clientNext = true := by
    intro hp
    have hlen := List.length_pos_of_ne_nil hp
    have hpos : 0 < serialOffset segment.sequence flow.clientNext := by
      have := hrep.1
      omega
    rw [h.clientNext]
    refine ⟨fun he => ?_, serialBefore_of_offset hpos hrep.2⟩
    rw [he, serialOffset, UInt32.sub_self] at hpos
    exact absurd hpos (by decide)
  cases hcases with
  | skipped => exact h
  | afterFin hp _ hf =>
    rw [h.finAccepted, hopen.resolve_left hp] at hf
    cases hf
  | overflow hp _ _ hs => exact absurd hs (hbefore hp).1
  | buffered hp _ _ hs => exact absurd hs (hbefore hp).1
  | forwarded hp _ _ hs => exact absurd hs (hbefore hp).1
  | duplicate => exact h.answer _
  | early hp _ _ _ hb =>
    rw [(hbefore hp).2] at hb
    cases hb

lemma resolveQueries (hd : Drained flow.dnsBuffer) : p.resolveQueries config = p := by
  simp only [SegmentProgress.resolveQueries]
  split_ifs
  · exact drainDns_of_drained (by rwa [h.dnsBuffer]) _ _
  · rfl

lemma receiveFin (hrep : flow.Repeats segment) :
    Quiet config flow (p.receiveFin config segment) := by
  have hcases := receiveFin_cases config segment p
  generalize p.receiveFin config segment = q at hcases
  have hend : segment.flags.fin = true → finEnd segment ≠ p.flow.clientNext := by
    intro hfin he
    rw [h.clientNext] at he
    have hle := hrep.1
    rw [if_pos hfin] at hle
    have hlt := serialOffset_lt segment.sequence flow.clientNext
    have hlen : segment.payload.length < 4294967296 := by omega
    rw [← he, finEnd, serialOffset_add _ hlen] at hle
    omega
  cases hcases with
  | skipped => exact h
  | closes hfin _ he => exact absurd he (hend hfin)
  | halfCloses hfin _ he => exact absurd he (hend hfin)
  | repeated => exact h.answer _

lemma finish : Quiet config flow p.finish := by
  simp only [SegmentProgress.finish, h.resetAfter]
  exact h

lemma receiveContent (hrep : flow.Repeats segment)
    (hopen : segment.payload = [] ∨ flow.finAccepted = false) (hd : Drained flow.dnsBuffer) :
    Quiet config flow (p.receiveContent config segment) := by
  have hp := h.receivePayload hrep hopen
  rw [SegmentProgress.receiveContent, hp.resolveQueries hd]
  exact (hp.receiveFin hrep).finish

end Quiet

end SegmentProgress

namespace FlowRecord

open SegmentProgress

def Synchronized (flow : FlowRecord) : Prop :=
  flow.state = .established ∨ flow.state = .halfClosedLocal ∨ flow.state = .halfClosedRemote ∨
    flow.state = .closing

variable {config : EngineConfig} {flow : FlowRecord} {segment : TcpSegment}

lemma receiveSegment_of_synchronized (h : flow.Synchronized) (hs : segment.flags.syn = false)
    (pendingDns : PendingDns) (nextDnsId : UInt64) (now : ℕ) :
    flow.receiveSegment config pendingDns nextDnsId segment now =
      receiveData config segment (flow.arrival pendingDns nextDnsId now) := by
  have hc : ¬ (flow.touch now).state = .connecting := by
    rcases h with h | h | h | h <;> simp [touch, h]
  have ha : ¬ (flow.touch now).state = .synAckSent := by
    rcases h with h | h | h | h <;> simp [touch, h]
  have he : (flow.touch now).establish = flow.touch now := if_neg ha
  simp only [receiveSegment, hs, Bool.false_eq_true, if_false, if_neg hc, ha, false_and, he]
  rfl

lemma arrival_quiet (config : EngineConfig) (flow : FlowRecord) (pendingDns : PendingDns)
    (nextDnsId : UInt64) (now : ℕ) :
    Quiet config flow (flow.arrival pendingDns nextDnsId now) :=
  ⟨rfl, rfl, ⟨rfl, rfl, rfl, rfl⟩, rfl, rfl, rfl, List.forall_mem_nil _⟩

lemma receiveSegment_repeated (config : EngineConfig) (h : flow.Synchronized)
    (hs : segment.flags.syn = false) (hack : segment.flags.ack = true)
    (hahead : sequenceBefore flow.serverNext segment.acknowledgement = false)
    (hrep : flow.Repeats segment) (hd : Drained flow.dnsBuffer)
    (hopen : segment.payload = [] ∨ flow.finAccepted = false)
    (pendingDns : PendingDns) (nextDnsId : UInt64) (now : ℕ) :
    Quiet config flow (flow.receiveSegment config pendingDns nextDnsId segment now) ∨
      segment.payload = [] ∧ segment.flags.fin = false ∧
        (flow.receiveSegment config pendingDns nextDnsId segment now).actions =
          [flow.close .both] := by
  rw [receiveSegment_of_synchronized h hs]
  have hq : Quiet config flow
      ((flow.arrival pendingDns nextDnsId now).receiveAcknowledgement segment) :=
    (arrival_quiet config flow pendingDns nextDnsId now).receiveAcknowledgement hahead
  have hnil : ((flow.arrival pendingDns nextDnsId now).receiveAcknowledgement segment).actions = [] := by
    have hcases := receiveAcknowledgement_cases segment (flow.arrival pendingDns nextDnsId now)
    generalize (flow.arrival pendingDns nextDnsId now).receiveAcknowledgement segment = q at hcases
    cases hcases with
    | ahead _ hb =>
      rw [show (flow.arrival pendingDns nextDnsId now).flow.serverNext = flow.serverNext from rfl,
        hahead] at hb
      cases hb
    | _ => rfl
  have hcases := receiveData_cases config segment (flow.arrival pendingDns nextDnsId now)
  generalize receiveData config segment (flow.arrival pendingDns nextDnsId now) = q at hcases
  cases hcases with
  | unacknowledged _ hno =>
    rw [hack] at hno
    cases hno
  | completed hdone =>
    right
    simp only [completesClose, Bool.and_eq_true, Bool.not_eq_true', List.isEmpty_iff] at hdone
    refine ⟨hdone.1.2, hdone.2, ?_⟩
    rw [emit_actions]
    simp only [hnil, List.nil_append, close, hq.same.flowId]
  | content => exact .inl (hq.receiveContent hrep hopen hd)

lemma receiveSegment_blocks (h : flow.Synchronized) (hs : segment.flags.syn = false)
    (hack : segment.flags.ack = true)
    (hahead : sequenceBefore flow.serverNext segment.acknowledgement = false)
    (hpay : segment.payload ≠ []) (hfin : flow.finAccepted = true)
    (pendingDns : PendingDns) (nextDnsId : UInt64) (now : ℕ) :
    flow.blocked .malformedPacket ∈
      (flow.receiveSegment config pendingDns nextDnsId segment now).actions := by
  rw [receiveSegment_of_synchronized h hs]
  have hq : Quiet config flow
      ((flow.arrival pendingDns nextDnsId now).receiveAcknowledgement segment) :=
    (arrival_quiet config flow pendingDns nextDnsId now).receiveAcknowledgement hahead
  generalize hp : (flow.arrival pendingDns nextDnsId now).receiveAcknowledgement segment = p at hq
  have hafter : p.receivePayload config segment =
      p.resetWith [p.flow.blocked .malformedPacket, p.flow.diagnostic .outOfOrder] := by
    have hcases := receivePayload_cases config segment p
    generalize p.receivePayload config segment = q at hcases
    have hopen : ∀ {b}, p.flow.finAccepted = b → b = true := by
      rintro b rfl
      rw [hq.finAccepted, hfin]
    cases hcases with
    | skipped hskip =>
      rcases hskip with hskip | hskip
      · exact absurd hskip hpay
      · rw [hq.resetAfter] at hskip
        cases hskip
    | afterFin => rfl
    | overflow _ _ hf | buffered _ _ hf
    | forwarded _ _ hf | duplicate _ _ hf
    | early _ _ hf => exact absurd (hopen hf) Bool.false_ne_true
  have hcontent : receiveData config segment (flow.arrival pendingDns nextDnsId now) =
      p.receiveContent config segment := by
    simp [receiveData, hack, hp, completesClose, hpay, receiveContent]
  have hmem : p.flow.blocked .malformedPacket ∈ (p.receivePayload config segment).actions := by
    rw [hafter]
    simp
  rw [hcontent, show flow.blocked .malformedPacket = p.flow.blocked .malformedPacket by
    simp only [blocked, hq.same.flowId]]
  have hreset : (p.receivePayload config segment).resetAfter = true := by
    rw [hafter]
    rfl
  simp only [receiveContent, resolveQueries, hreset, Bool.not_true, Bool.and_false,
    Bool.false_eq_true, if_false, receiveFin, finish, if_true, emit_actions]
  exact List.mem_append_left _ hmem

end FlowRecord

structure Tolerated (e : Event) (segment : TcpSegment) : Prop where
  noReset : ∀ packet, .sendSyntheticResponse packet ∈ e.actions →
    ∀ answer, classify packet = .ok (.tcp answer) → answer.flags.rst = false
  noBlock : ∀ flowId reason, .blockFlow flowId reason ∉ e.actions
  kept : segment.payload ≠ [] ∨ segment.flags.fin = true →
    (∀ flowId, .closeProtectedStream flowId .both ∉ e.actions) ∧
      e.after.flows.lookup segment.key ≠ none

theorem tolerated_iff {config : EngineConfig} {events : List Event} {s : PacketProcessor}
    {e : Event} {input : PacketEngineInput} {segment : TcpSegment} {flow : FlowRecord}
    (h : Run config events s) (he : e ∈ events) (hcall : e.call = .process input)
    (hc : classify input.packet = .ok (.tcp segment))
    (hp : protectedState input.connectionState = true)
    (hf : e.before.flows.lookup segment.key = some flow) (hsync : flow.Synchronized)
    (hsyn : segment.flags.syn = false) (hrst : segment.flags.rst = false)
    (hack : segment.flags.ack = true)
    (hahead : sequenceBefore flow.serverNext segment.acknowledgement = false)
    (hrep : flow.Repeats segment) :
    Tolerated e segment ↔ segment.payload = [] ∨ flow.finAccepted = false := by
  have hran := h.ran.2.2 e he
  have hstep := hran.received hcall hc hf hsyn hrst hp
  simp only [FlowRecord.step, Prod.mk.injEq] at hstep
  have hkey : flow.key = segment.key := hran.sound.key hf
  have hports := classify_tcp_ports hc
  constructor
  · intro ht
    by_contra hno
    rw [not_or, Bool.not_eq_false] at hno
    refine ht.noBlock (some flow.flowId) .malformedPacket ?_
    rw [← hstep.2]
    exact FlowRecord.receiveSegment_blocks hsync hsyn hack hahead hno.1 hno.2 _ _ _
  · intro hopen
    have hcases := FlowRecord.receiveSegment_repeated config hsync hsyn hack hahead hrep
      (h.drained he hf) hopen e.before.pendingDns e.before.nextDnsId input.platform.monotonicMs
    rcases hcases with hq | ⟨hpay, hfin, hactions⟩
    · have hall : ∀ a ∈ e.actions, (∃ code id, a = .recordDiagnostic code id) ∨
          ∃ g : FlowRecord, g.key = segment.key ∧ a = g.ackAction config := by
        intro a ha
        rw [← hstep.2] at ha
        rcases hq.actions a ha with ⟨code, rfl⟩ | ⟨g, hg, rfl⟩
        · exact .inl ⟨code, _, rfl⟩
        · exact .inr ⟨g, hg.key.trans hkey, rfl⟩
      refine ⟨fun packet hm answer hcl => ?_, fun id reason hm => ?_, fun _ => ⟨fun id hm => ?_, ?_⟩⟩
      · obtain ⟨code, id, ha⟩ | ⟨g, hg, ha⟩ := hall _ hm
        · cases ha
        · obtain rfl := EngineAction.sendSyntheticResponse.inj ha
          have hack := classify_response g g.serverNext g.clientNext .ackOnly
            config.receiveWindow [] (by rw [hg]; exact hports.1) (by rw [hg]; exact hports.2)
            (Nat.zero_le _)
          obtain rfl := ClassifiedPacket.tcp.inj (Except.ok.inj (hack.symm.trans hcl))
          rfl
      · obtain ⟨code, id, ha⟩ | ⟨g, hg, ha⟩ := hall _ hm <;> cases ha
      · obtain ⟨code, id, ha⟩ | ⟨g, hg, ha⟩ := hall _ hm <;> cases ha
      · rw [← hstep.1, hq.remove]
        exact Option.some_ne_none _
    · have hall : e.actions = [flow.close .both] := hstep.2.symm.trans hactions
      refine ⟨fun packet hm => ?_, fun id reason hm => ?_, fun hcontent => ?_⟩
      · simp [hall, FlowRecord.close] at hm
      · simp [hall, FlowRecord.close] at hm
      · simp [hpay, hfin] at hcontent

namespace Sample

def helloOnce (flags : TcpFlags) : List Call :=
  [opening, .protectedStreamOpened flowId 0, segment 8 serverNext .ackOnly [],
    segment 8 serverNext flags [104, 105]]

def helloSegment (flags : TcpFlags) : TcpSegment :=
  ⟨source.address, destination.address, source.port, destination.port, 8, serverNext, 1024, flags,
    [104, 105]⟩

def helloAgain (flags : TcpFlags) : Event :=
  eventOf (finalOf start (helloOnce flags)) (segment 8 serverNext flags [104, 105])

def helloFlow (flags : TcpFlags) : FlowRecord :=
  { opened with
    snapshot.state := if flags.fin then .halfClosedLocal else .established
    snapshot.timestamps.connectStartedMs := none
    snapshot.queuedToGateway := 2
    clientNext := if flags.fin then 11 else 10 }

lemma helloAgain_mem (flags : TcpFlags) : helloAgain flags ∈
    eventsOf start (helloOnce flags ++ [segment 8 serverNext flags [104, 105]]) := by
  rw [eventsOf_append]
  exact List.mem_append_right _ List.mem_cons_self

lemma classify_hello (flags : TcpFlags) :
    classify (packetOn key 8 serverNext flags [104, 105]) = .ok (.tcp (helloSegment flags)) :=
  classify_buildTcpPacket _ _ _ _ _ _ _ _ _ (by decide) (by decide) (by decide)

end Sample

open Sample in
theorem tolerated_iff_hello :
    Tolerated (helloAgain .ackOnly) (helloSegment .ackOnly) := by
  have hflow : (helloAgain .ackOnly).before.flows.lookup key =
      some (helloFlow .ackOnly) := by decide +kernel
  refine (tolerated_iff (run_eventsOf new_default _) (helloAgain_mem .ackOnly) rfl
    (classify_hello .ackOnly) rfl hflow (.inl rfl) rfl rfl rfl (by decide) ?_).mpr (.inr rfl)
  exact ⟨by decide, by decide⟩

open Sample in
theorem repeated_data_fin_blocks :
    (helloAgain .finAck).before.flows.lookup key =
        some (helloFlow .finAck) ∧
      (helloFlow .finAck).state = .halfClosedLocal ∧
      (helloFlow .finAck).Repeats (helloSegment .finAck) ∧
      sequenceBefore (helloFlow .finAck).serverNext
        (helloSegment .finAck).acknowledgement = false ∧
      .blockFlow (some flowId) .malformedPacket ∈ (helloAgain .finAck).actions ∧
      ¬ Tolerated (helloAgain .finAck) (helloSegment .finAck) := by
  have hblock : .blockFlow (some flowId) .malformedPacket ∈
      (helloAgain .finAck).actions := by decide +kernel
  exact ⟨by decide +kernel, rfl, ⟨by decide, by decide⟩, by decide, hblock,
    fun h => h.noBlock _ _ hblock⟩

end OnionRoute.PacketEngine
