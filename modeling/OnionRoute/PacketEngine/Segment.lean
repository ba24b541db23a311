import Mathlib.Logic.Relation
import OnionRoute.PacketEngine.FlowMachine

/-! What one segment can do to a live flow, stage by stage. -/

namespace OnionRoute.PacketEngine

open Library Relation

namespace FlowRecord

def finAccepted (flow : FlowRecord) : Bool :=
  flow.state = .halfClosedLocal || flow.state = .closing

lemma finAccepted_iff (flow : FlowRecord) :
    flow.finAccepted = true ↔ flow.state = .halfClosedLocal ∨ flow.state = .closing := by
  simp [finAccepted]

def Open (flow : FlowRecord) : Prop :=
  flow.state ≠ .connecting ∧ flow.state ≠ .synAckSent

def fins (flow : FlowRecord) : ℕ := if flow.finAccepted then 1 else 0

lemma fins_le (flow : FlowRecord) : flow.fins ≤ 1 := by
  unfold fins
  split_ifs <;> decide

def clearOutstanding (flow : FlowRecord) : FlowRecord :=
  { flow with outstandingToApplication := none, snapshot.queuedToApplication := 0 }

def forward (payload : Bytes) (flow : FlowRecord) : FlowRecord :=
  { flow with
    snapshot.queuedToGateway := flow.snapshot.queuedToGateway + payload.length
    clientNext := flow.clientNext + UInt32.ofNat payload.length }

def bufferDns (payload : Bytes) (flow : FlowRecord) : FlowRecord :=
  { flow with
    dnsBuffer := flow.dnsBuffer ++ payload
    clientNext := flow.clientNext + UInt32.ofNat payload.length }

def acceptFin (state : TcpFlowState) (flow : FlowRecord) : FlowRecord :=
  { flow with clientNext := flow.clientNext + 1, snapshot.state := state }

lemma fins_acceptFin (flow : FlowRecord) {state : TcpFlowState}
    (hs : state = .halfClosedLocal ∨ state = .closing) : (flow.acceptFin state).fins = 1 :=
  if_pos ((finAccepted_iff _).mpr hs)

def ackAction (config : EngineConfig) (flow : FlowRecord) : EngineAction :=
  .sendSyntheticResponse (flow.ackPacket config.receiveWindow)

end FlowRecord

namespace SegmentProgress

variable {config : EngineConfig} {segment : TcpSegment} (p : SegmentProgress)

section

variable (actions : List EngineAction)

@[simp] lemma emit_flow : (p.emit actions).flow = p.flow := rfl

@[simp] lemma emit_resetAfter :
    (p.emit actions).resetAfter = p.resetAfter := rfl

@[simp] lemma emit_remove : (p.emit actions).remove = p.remove := rfl

@[simp] lemma emit_actions :
    (p.emit actions).actions = p.actions ++ actions := rfl

@[simp] lemma resetWith_actions :
    (p.resetWith actions).actions = p.actions ++ actions := rfl

end

@[simp] lemma finish_flow : p.finish.flow = p.flow := by
  unfold finish
  split_ifs <;> rfl

lemma emit_append (actions actions' : List EngineAction) :
    p.emit (actions ++ actions') = (p.emit actions).emit actions' := by
  simp [emit]

lemma resolveQueries_of_not_dns (config : EngineConfig) (h : p.flow.dnsTcp = false) :
    p.resolveQueries config = p := by
  simp [resolveQueries, h]

variable {p}

inductive Acknowledging (segment : TcpSegment) (p : SegmentProgress) : SegmentProgress → Prop
  | ahead (hack : segment.flags.ack = true)
      (h : sequenceBefore p.flow.serverNext segment.acknowledgement = true) :
      Acknowledging segment p
        (p.resetWith [p.flow.blocked .malformedPacket, p.flow.diagnostic .outOfOrder])
  | cleared (hack : segment.flags.ack = true)
      (h : segment.acknowledgement = p.flow.serverNext)
      (ho : p.flow.outstandingToApplication.isSome = true) :
      Acknowledging segment p { p with flow := p.flow.clearOutstanding }
  | kept (h : segment.flags.ack = true → segment.acknowledgement = p.flow.serverNext →
      p.flow.outstandingToApplication = none) : Acknowledging segment p p

lemma receiveAcknowledgement_cases (segment : TcpSegment) (p : SegmentProgress) :
    Acknowledging segment p (p.receiveAcknowledgement segment) := by
  unfold receiveAcknowledgement
  split_ifs with hack hb hc
  · exact .ahead hack hb
  · exact .cleared hack hc.1 hc.2
  · refine .kept fun _ he => ?_
    simpa [he] using hc
  · exact .kept fun h => absurd h hack

inductive Accepting (config : EngineConfig) (segment : TcpSegment) (p : SegmentProgress) :
    SegmentProgress → Prop
  | skipped (h : segment.payload = [] ∨ p.resetAfter = true) : Accepting config segment p p
  | afterFin (hp : segment.payload ≠ []) (hr : p.resetAfter = false)
      (h : p.flow.finAccepted = true) :
      Accepting config segment p
        (p.resetWith [p.flow.blocked .malformedPacket, p.flow.diagnostic .outOfOrder])
  | overflow (hp : segment.payload ≠ []) (hr : p.resetAfter = false)
      (hf : p.flow.finAccepted = false) (hs : segment.sequence = p.flow.clientNext)
      (h : config.buffers.toGatewayBytes < saturatingAdd
        (if p.flow.dnsTcp then p.flow.dnsBuffer.length else p.flow.snapshot.queuedToGateway)
        segment.payload.length) :
      Accepting config segment p
        (p.resetWith [p.flow.blocked .backpressure, p.flow.diagnostic .bufferLimit])
  | buffered (hp : segment.payload ≠ []) (hr : p.resetAfter = false)
      (hf : p.flow.finAccepted = false) (hs : segment.sequence = p.flow.clientNext)
      (hd : p.flow.dnsTcp = true)
      (h : saturatingAdd p.flow.dnsBuffer.length segment.payload.length ≤
        config.buffers.toGatewayBytes) :
      Accepting config segment p ({ p with flow := p.flow.bufferDns segment.payload }.emit
        [(p.flow.bufferDns segment.payload).ackAction config])
  | forwarded (hp : segment.payload ≠ []) (hr : p.resetAfter = false)
      (hf : p.flow.finAccepted = false) (hs : segment.sequence = p.flow.clientNext)
      (hd : p.flow.dnsTcp = false)
      (h : saturatingAdd p.flow.snapshot.queuedToGateway segment.payload.length ≤
        config.buffers.toGatewayBytes) :
      Accepting config segment p ({ p with flow := p.flow.forward segment.payload }.emit
        [.forwardPayload p.flow.flowId segment.payload])
  | duplicate (hp : segment.payload ≠ []) (hr : p.resetAfter = false)
      (hf : p.flow.finAccepted = false) (hs : segment.sequence ≠ p.flow.clientNext)
      (h : sequenceBefore segment.sequence p.flow.clientNext = true) :
      Accepting config segment p
        (p.emit [p.flow.diagnostic .retransmission, p.flow.ackAction config])
  | early (hp : segment.payload ≠ []) (hr : p.resetAfter = false)
      (hf : p.flow.finAccepted = false) (hs : segment.sequence ≠ p.flow.clientNext)
      (h : sequenceBefore segment.sequence p.flow.clientNext = false) :
      Accepting config segment p
        (p.emit [p.flow.diagnostic .outOfOrder, p.flow.ackAction config])

lemma receivePayload_cases (config : EngineConfig) (segment : TcpSegment) (p : SegmentProgress) :
    Accepting config segment p (p.receivePayload config segment) := by
  unfold receivePayload
  dsimp only
  split_ifs with h1 h2 h3 h4 h5 h5 h4
  · exact .skipped (by simpa using h1)
  all_goals
    have hp : segment.payload ≠ [] ∧ p.resetAfter = false := by simpa using h1
  · exact .afterFin hp.1 hp.2 ((p.flow.finAccepted_iff).mpr h2)
  all_goals
    have hf : p.flow.finAccepted = false := by
      simpa [FlowRecord.finAccepted] using h2
  · exact .overflow hp.1 hp.2 hf h3 (by rw [if_pos h4]; exact h5)
  · exact .buffered hp.1 hp.2 hf h3 h4 (not_lt.mp h5)
  · exact .overflow hp.1 hp.2 hf h3 (by rw [if_neg h4]; exact by assumption)
  · exact .forwarded hp.1 hp.2 hf h3 (by simpa using h4) (not_lt.mp (by assumption))
  · exact .duplicate hp.1 hp.2 hf h3 h4
  · exact .early hp.1 hp.2 hf h3 (by simpa using h4)

lemma receivePayload_dnsTcp (config : EngineConfig) (segment : TcpSegment) (p : SegmentProgress) :
    (p.receivePayload config segment).flow.dnsTcp = p.flow.dnsTcp := by
  have hcases := receivePayload_cases config segment p
  generalize p.receivePayload config segment = q at hcases
  cases hcases <;> rfl

def finEnd (segment : TcpSegment) : UInt32 :=
  segment.sequence + UInt32.ofNat segment.payload.length

lemma finEnd_of_empty (h : segment.payload = []) : finEnd segment = segment.sequence := by
  rw [finEnd, h]
  exact UInt32.add_zero _

inductive Finishing (config : EngineConfig) (segment : TcpSegment) (p : SegmentProgress) :
    SegmentProgress → Prop
  | skipped (h : segment.flags.fin = true → p.resetAfter = false →
      finEnd segment ≠ p.flow.clientNext ∧ finEnd segment + 1 ≠ p.flow.clientNext) :
      Finishing config segment p p
  | closes (hfin : segment.flags.fin = true) (hr : p.resetAfter = false)
      (he : finEnd segment = p.flow.clientNext) (h : p.flow.state = .halfClosedRemote) :
      Finishing config segment p
        ({ p with flow := p.flow.acceptFin .closing, remove := segment.payload.isEmpty }.emit
          (p.flow.close .both :: if segment.payload.isEmpty then
            [(p.flow.acceptFin .closing).ackAction config] else []))
  | halfCloses (hfin : segment.flags.fin = true) (hr : p.resetAfter = false)
      (he : finEnd segment = p.flow.clientNext) (h : p.flow.state ≠ .halfClosedRemote) :
      Finishing config segment p
        ({ p with flow := p.flow.acceptFin .halfClosedLocal }.emit
          ((if p.flow.dnsTcp then [] else [p.flow.close .write]) ++
            if p.flow.dnsTcp || segment.payload.isEmpty then
              [(p.flow.acceptFin .halfClosedLocal).ackAction config] else []))
  | repeated (hfin : segment.flags.fin = true) (hr : p.resetAfter = false)
      (hne : finEnd segment ≠ p.flow.clientNext) (he : finEnd segment + 1 = p.flow.clientNext) :
      Finishing config segment p
        (p.emit [p.flow.diagnostic .retransmission, p.flow.ackAction config])

lemma receiveFin_cases (config : EngineConfig) (segment : TcpSegment) (p : SegmentProgress) :
    Finishing config segment p (p.receiveFin config segment) := by
  unfold receiveFin
  dsimp only
  rw [← finEnd]
  by_cases h1 : (segment.flags.fin && !p.resetAfter) = true
  · have hr : segment.flags.fin = true ∧ p.resetAfter = false := by simpa using h1
    rw [if_pos h1]
    by_cases h2 : finEnd segment = p.flow.clientNext
    · rw [if_pos h2]
      by_cases h3 : p.flow.state = .halfClosedRemote
      · rw [if_pos h3]
        exact .closes hr.1 hr.2 h2 h3
      · rw [if_neg h3]
        exact .halfCloses hr.1 hr.2 h2 h3
    · rw [if_neg h2]
      by_cases h3 : finEnd segment + 1 = p.flow.clientNext
      · rw [if_pos h3]
        exact .repeated hr.1 hr.2 h2 h3
      · rw [if_neg h3]
        exact .skipped fun _ _ => ⟨h2, h3⟩
  · rw [if_neg h1]
    refine .skipped fun hf hr => absurd ?_ h1
    rw [hf, hr]
    rfl

def receiveContent (config : EngineConfig) (segment : TcpSegment) (p : SegmentProgress) :
    SegmentProgress :=
  (((p.receivePayload config segment).resolveQueries config).receiveFin config segment).finish

inductive Handling (config : EngineConfig) (segment : TcpSegment) (p : SegmentProgress) :
    SegmentProgress → Prop
  | unacknowledged (h : segment.payload ≠ [] ∨ segment.flags.fin = true)
      (hack : segment.flags.ack = false) :
      Handling config segment p (p.emit [p.flow.diagnostic .outOfOrder, p.flow.ackAction config])
  | completed (h : (p.receiveAcknowledgement segment).completesClose segment = true) :
      Handling config segment p ({ p.receiveAcknowledgement segment with remove := true }.emit
        [(p.receiveAcknowledgement segment).flow.close .both])
  | content (hack : segment.payload ≠ [] ∨ segment.flags.fin = true → segment.flags.ack = true)
      (h : (p.receiveAcknowledgement segment).completesClose segment = false) :
      Handling config segment p ((p.receiveAcknowledgement segment).receiveContent config segment)

lemma receiveData_cases (config : EngineConfig) (segment : TcpSegment) (p : SegmentProgress) :
    Handling config segment p (FlowRecord.receiveData config segment p) := by
  unfold FlowRecord.receiveData
  dsimp only
  split_ifs with h1 h2
  · have h : (segment.payload ≠ [] ∨ segment.flags.fin = true) ∧ segment.flags.ack = false := by
      simpa [or_iff_not_imp_left] using h1
    exact .unacknowledged h.1 h.2
  · exact .completed h2
  · refine .content (fun h => ?_) (by simpa using h2)
    by_contra hack
    exact h1 (by rcases h with h | h <;> simp [h, hack])

end SegmentProgress

variable {flow : FlowRecord}

namespace FlowRecord

open SegmentProgress

def arrival (pendingDns : PendingDns) (nextDnsId : UInt64) (now : ℕ) (flow : FlowRecord) :
    SegmentProgress :=
  { flow := flow.touch now, pendingDns, nextDnsId }

def synAckAction (config : EngineConfig) (flow : FlowRecord) : EngineAction :=
  .sendSyntheticResponse (flow.synAckPacket config.receiveWindow)

inductive Receiving (config : EngineConfig) (segment : TcpSegment) (p : SegmentProgress) :
    SegmentProgress → Prop
  | repeatedSyn (h : segment.flags.syn = true) : Receiving config segment p
      (p.emit (p.flow.diagnostic .retransmission ::
        if p.flow.state = .synAckSent then [p.flow.synAckAction config] else []))
  | connecting (hs : segment.flags.syn = false) (h : p.flow.state = .connecting) :
      Receiving config segment p p
  | unanswered (hs : segment.flags.syn = false) (h : p.flow.state = .synAckSent)
      (hh : p.flow.completesHandshake segment = false) :
      Receiving config segment p
        (p.emit [p.flow.diagnostic .outOfOrder, p.flow.synAckAction config])
  | data (hs : segment.flags.syn = false) (hc : p.flow.state ≠ .connecting)
      (hh : p.flow.state = .synAckSent → p.flow.completesHandshake segment = true) :
      Receiving config segment p (receiveData config segment { p with flow := p.flow.establish })

lemma receiveSegment_cases (config : EngineConfig) (pendingDns : PendingDns) (nextDnsId : UInt64)
    (segment : TcpSegment) (now : ℕ) (flow : FlowRecord) :
    Receiving config segment (flow.arrival pendingDns nextDnsId now)
      (flow.receiveSegment config pendingDns nextDnsId segment now) := by
  unfold receiveSegment
  dsimp only
  by_cases h1 : segment.flags.syn = true
  · rw [if_pos h1]
    exact .repeatedSyn h1
  have hs : segment.flags.syn = false := by simpa using h1
  rw [if_neg h1]
  by_cases h2 : (flow.touch now).state = .connecting
  · rw [if_pos h2]
    exact .connecting hs h2
  rw [if_neg h2]
  by_cases h3 : (flow.touch now).state = .synAckSent ∧
      ¬ (flow.touch now).completesHandshake segment = true
  · rw [if_pos h3]
    exact .unanswered hs h3.1 (Bool.eq_false_iff.mpr h3.2)
  · rw [if_neg h3]
    exact .data hs h2 fun h => by_contra fun hn => h3 ⟨h, hn⟩

inductive Reports (config : EngineConfig) (flow : FlowRecord) : EngineAction → Prop
  | diagnostic (code : DiagnosticCode) : Reports config flow (flow.diagnostic code)
  | blocked (reason : BlockReason) : Reports config flow (flow.blocked reason)
  | ack : Reports config flow (flow.ackAction config)
  | synAck (h : flow.state = .synAckSent) : Reports config flow (flow.synAckAction config)

def Reporting (config : EngineConfig) (flow : FlowRecord) (actions : List EngineAction) : Prop :=
  ∀ a ∈ actions, flow.Reports config a

lemma reporting_nil (config : EngineConfig) (flow : FlowRecord) : flow.Reporting config [] :=
  List.forall_mem_nil _

lemma Reports.one {config : EngineConfig} {a : EngineAction}
    (h : flow.Reports config a) : flow.Reporting config [a] :=
  List.forall_mem_singleton.mpr h

lemma Reports.pair {config : EngineConfig} {a b : EngineAction}
    (ha : flow.Reports config a) (hb : flow.Reports config b) : flow.Reporting config [a, b] :=
  List.forall_mem_cons.mpr ⟨ha, hb.one⟩

end FlowRecord

namespace SegmentProgress

open FlowRecord

def ask (length : ℕ) (p : SegmentProgress) : SegmentProgress :=
  { p with
    flow := { p.flow with dnsBuffer := p.flow.dnsBuffer.drop (length + 2) }
    nextDnsId := nextQueryId p.nextDnsId
    pendingDns := p.pendingDns.insert p.nextDnsId (.tcp p.flow.flowId) }.emit
      [.resolveDns ⟨p.nextDnsId, (p.flow.dnsBuffer.take (length + 2)).drop 2⟩ (.tcp p.flow.flowId)]

inductive Edit (config : EngineConfig) (segment : TcpSegment) (p : SegmentProgress) :
    SegmentProgress → Prop
  | report {actions : List EngineAction} (h : p.flow.Reporting config actions) :
      Edit config segment p (p.emit actions)
  | refuse {actions : List EngineAction} (h : p.flow.Reporting config actions) :
      Edit config segment p (p.resetWith actions)
  | establish (h : p.flow.state = .synAckSent) :
      Edit config segment p { p with flow := p.flow.establish }
  | clear : Edit config segment p { p with flow := p.flow.clearOutstanding }
  | forward (hp : segment.payload ≠ []) (hf : p.flow.finAccepted = false)
      (hs : segment.sequence = p.flow.clientNext) (hd : p.flow.dnsTcp = false)
      (h : saturatingAdd p.flow.snapshot.queuedToGateway segment.payload.length ≤
        config.buffers.toGatewayBytes) (hstate : p.flow.Open) :
      Edit config segment p ({ p with flow := p.flow.forward segment.payload }.emit
        [.forwardPayload p.flow.flowId segment.payload])
  | buffer (hp : segment.payload ≠ []) (hf : p.flow.finAccepted = false)
      (hs : segment.sequence = p.flow.clientNext) (hd : p.flow.dnsTcp = true)
      (h : saturatingAdd p.flow.dnsBuffer.length segment.payload.length ≤
        config.buffers.toGatewayBytes) :
      Edit config segment p { p with flow := p.flow.bufferDns segment.payload }
  | ask {length : ℕ} (hd : p.flow.dnsTcp = true) (h : length + 2 ≤ p.flow.dnsBuffer.length)
      (hroom : p.pendingDns.size < config.maxPendingDns) :
      Edit config segment p (p.ask length)
  | close (hfin : segment.flags.fin = true) (he : finEnd segment = p.flow.clientNext)
      (hf : segment.payload ≠ [] → p.flow.finAccepted = false)
      (h : p.flow.state = .halfClosedRemote) : Edit config segment p
        ({ p with flow := p.flow.acceptFin .closing, remove := segment.payload.isEmpty }.emit
          [p.flow.close .both])
  | halfClose (hfin : segment.flags.fin = true) (he : finEnd segment = p.flow.clientNext)
      (hf : segment.payload ≠ [] → p.flow.finAccepted = false)
      (h : p.flow.state ≠ .halfClosedRemote) : Edit config segment p
        ({ p with flow := p.flow.acceptFin .halfClosedLocal }.emit
          (if p.flow.dnsTcp then [] else [p.flow.close .write]))
  | complete : Edit config segment p ({ p with remove := true }.emit [p.flow.close .both])
  | finish : Edit config segment p ({ p with remove := true }.emit
      [.sendSyntheticResponse p.flow.rstPacket, p.flow.close .both])

variable (config : EngineConfig) (segment : TcpSegment) (p : SegmentProgress)

lemma receiveAcknowledgement_edits :
    ReflTransGen (Edit config segment) p (p.receiveAcknowledgement segment) := by
  have hcases := receiveAcknowledgement_cases segment p
  generalize p.receiveAcknowledgement segment = q at hcases
  cases hcases with
  | ahead => exact .single (.refuse (.pair (.blocked _) (.diagnostic _)))
  | cleared => exact .single .clear
  | kept => exact .refl

lemma receivePayload_edits (hopen : p.flow.Open) :
    ReflTransGen (Edit config segment) p (p.receivePayload config segment) := by
  have hcases := receivePayload_cases config segment p
  generalize p.receivePayload config segment = q at hcases
  cases hcases with
  | skipped => exact .refl
  | afterFin | overflow => exact .single (.refuse (.pair (.blocked _) (.diagnostic _)))
  | buffered hp _ hf hs hd h =>
    exact (ReflTransGen.single (.buffer hp hf hs hd h)).tail (.report (.one .ack))
  | forwarded hp _ hf hs hd h => exact .single (.forward hp hf hs hd h hopen)
  | duplicate | early => exact .single (.report (.pair (.diagnostic _) .ack))

lemma drainDns_edits (rounds : ℕ) (hd : p.flow.dnsTcp = true) :
    ReflTransGen (Edit config segment) p (drainDns config.maxPendingDns rounds p) := by
  induction rounds generalizing p with
  | zero => exact .refl
  | succ rounds ih =>
    simp only [drainDns]
    split_ifs with _ _ hlen hroom
    · exact .refl
    · exact .single (.refuse (.one (.blocked _)))
    · exact .refl
    · exact .single (.refuse (.one (.blocked _)))
    · exact .head (.ask hd (not_lt.mp hlen) (not_le.mp hroom)) (ih (p.ask _) hd)

lemma resolveQueries_edits :
    ReflTransGen (Edit config segment) p (p.resolveQueries config) := by
  rw [resolveQueries]
  split_ifs with h
  · exact drainDns_edits config segment p _ (by simp_all)
  · exact .refl

lemma receivePayload_open (hp : segment.payload ≠ [])
    (hr : (p.receivePayload config segment).resetAfter = false) :
    (p.receivePayload config segment).flow.finAccepted = false := by
  have hcases := receivePayload_cases config segment p
  generalize p.receivePayload config segment = q at hcases hr
  cases hcases with
  | skipped h =>
    rw [hr] at h
    exact absurd (h.resolve_left hp) Bool.false_ne_true
  | afterFin | overflow => cases hr
  | buffered _ _ hf | forwarded _ _ hf | duplicate _ _ hf | early _ _ hf => exact hf

lemma drainDns_open (maxPendingDns rounds : ℕ)
    (hr : (drainDns maxPendingDns rounds p).resetAfter = false) :
    (drainDns maxPendingDns rounds p).flow.finAccepted = p.flow.finAccepted ∧
      p.resetAfter = false := by
  induction rounds generalizing p with
  | zero => exact ⟨rfl, hr⟩
  | succ rounds ih =>
    simp only [drainDns] at hr ⊢
    split_ifs at hr ⊢
    · exact ⟨rfl, hr⟩
    · cases hr
    · exact ⟨rfl, hr⟩
    · cases hr
    · exact ih _ hr

lemma receiveFin_edits (hf : segment.payload ≠ [] → p.resetAfter = false →
      p.flow.finAccepted = false) :
    ReflTransGen (Edit config segment) p (p.receiveFin config segment) := by
  have hcases := receiveFin_cases config segment p
  generalize p.receiveFin config segment = q at hcases
  have hack : ∀ (flow : FlowRecord) (b : Bool),
      flow.Reporting config (if b then [flow.ackAction config] else []) := by
    intro flow b
    cases b
    · exact reporting_nil config flow
    · exact .one .ack
  cases hcases with
  | skipped => exact .refl
  | closes hfin hr he h =>
    rw [← List.singleton_append, emit_append]
    exact (ReflTransGen.single (.close hfin he (fun hp => hf hp hr) h)).tail (.report (hack _ _))
  | halfCloses hfin hr he h =>
    rw [emit_append]
    exact (ReflTransGen.single (.halfClose hfin he (fun hp => hf hp hr) h)).tail (.report (hack _ _))
  | repeated => exact .single (.report (.pair (.diagnostic _) .ack))

lemma finish_edits : ReflTransGen (Edit config segment) p p.finish := by
  rw [SegmentProgress.finish]
  split_ifs
  · exact .single .finish
  · exact .refl

lemma receiveData_edits (hopen : p.flow.Open) :
    ReflTransGen (Edit config segment) p (receiveData config segment p) := by
  have hopen' : (p.receiveAcknowledgement segment).flow.Open := by
    have hcases := receiveAcknowledgement_cases segment p
    generalize p.receiveAcknowledgement segment = q at hcases
    cases hcases <;> exact hopen
  have hack := receiveAcknowledgement_edits config segment p
  have hcases := receiveData_cases config segment p
  generalize receiveData config segment p = q at hcases
  cases hcases with
  | unacknowledged => exact .single (.report (.pair (.diagnostic _) .ack))
  | completed => exact hack.tail .complete
  | content =>
    refine (((hack.trans (receivePayload_edits config segment _ hopen')).trans
      (resolveQueries_edits config segment _)).trans (receiveFin_edits config segment _ ?_)).trans
      (finish_edits config segment _)
    intro hp hr
    simp only [resolveQueries] at hr ⊢
    split_ifs at hr ⊢
    · obtain ⟨hf, hr⟩ := drainDns_open _ _ _ hr
      rw [hf]
      exact receivePayload_open _ _ _ hp hr
    · exact receivePayload_open _ _ _ hp hr

end SegmentProgress

namespace FlowRecord

open SegmentProgress

lemma receiveSegment_edits (config : EngineConfig) (pendingDns : PendingDns) (nextDnsId : UInt64)
    (segment : TcpSegment) (now : ℕ) (flow : FlowRecord) :
    ReflTransGen (Edit config segment) (flow.arrival pendingDns nextDnsId now)
      (flow.receiveSegment config pendingDns nextDnsId segment now) := by
  have hcases := receiveSegment_cases config pendingDns nextDnsId segment now flow
  generalize flow.receiveSegment config pendingDns nextDnsId segment now = q at hcases
  cases hcases with
  | repeatedSyn =>
    refine .single (.report (List.forall_mem_cons.mpr ⟨.diagnostic _, ?_⟩))
    split_ifs with hs
    · exact .one (.synAck hs)
    · exact reporting_nil config _
  | connecting => exact .refl
  | unanswered _ hs => exact .single (.report (.pair (.diagnostic _) (.synAck hs)))
  | data _ hc =>
    by_cases hs : (flow.touch now).state = .synAckSent
    · have hflow : (flow.touch now).establish = { flow.touch now with
          snapshot.state := .established, snapshot.timestamps.connectStartedMs := none } := if_pos hs
      refine .head (.establish hs) (receiveData_edits config segment _ ?_)
      rw [arrival, hflow]
      exact ⟨nofun, nofun⟩
    · rw [arrival, establish, if_neg hs]
      exact receiveData_edits config segment _ ⟨hc, hs⟩

def FinOnce (flow : FlowRecord) (segment : TcpSegment) : Prop :=
  flow.finAccepted = true → segment.flags.fin = true → segment.payload = [] →
    segment.sequence ≠ flow.clientNext

instance (flow : FlowRecord) (segment : TcpSegment) : Decidable (flow.FinOnce segment) :=
  inferInstanceAs (Decidable (_ → _ → _ → _))

variable {segment : TcpSegment}

lemma FinOnce.open (h : flow.FinOnce segment)
    (hfin : segment.flags.fin = true) (he : finEnd segment = flow.clientNext)
    (hf : segment.payload ≠ [] → flow.finAccepted = false) : flow.finAccepted = false := by
  by_cases hp : segment.payload = []
  · rw [finEnd_of_empty hp] at he
    exact Bool.eq_false_iff.mpr fun hacc => h hacc hfin hp he
  · exact hf hp

lemma FinOnce.acceptFin (he : finEnd segment = flow.clientNext) (state : TcpFlowState) :
    (flow.acceptFin state).FinOnce segment := by
  intro _ _ hp hseq
  rw [finEnd_of_empty hp] at he
  rw [he] at hseq
  simp [FlowRecord.acceptFin] at hseq

lemma FinOnce.edit {config : EngineConfig} {p q : SegmentProgress}
    (h : p.flow.FinOnce segment) (he : Edit config segment p q) : q.flow.FinOnce segment := by
  cases he with
  | establish hs =>
    intro hacc
    simp [establish, finAccepted, hs] at hacc
  | forward hp | buffer hp => exact fun _ _ hp' => absurd hp' hp
  | close _ hend | halfClose _ hend => exact .acceptFin hend _
  | _ => exact h

theorem receiveSegment_invariant {config : EngineConfig} {pendingDns : PendingDns}
    {nextDnsId : UInt64} {now : ℕ} {I : SegmentProgress → Prop}
    (hedit : ∀ {p q}, I p → Edit config segment p q → I q)
    (h : I (flow.arrival pendingDns nextDnsId now)) :
    I (flow.receiveSegment config pendingDns nextDnsId segment now) := by
  have hedits := receiveSegment_edits config pendingDns nextDnsId segment now flow
  generalize flow.receiveSegment config pendingDns nextDnsId segment now = q at hedits ⊢
  induction hedits with
  | refl => exact h
  | tail _ hlast ih => exact hedit ih hlast

end FlowRecord

end OnionRoute.PacketEngine
