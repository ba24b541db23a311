import OnionRoute.PacketEngine.Emission

/-! Which synthetic packets a call sends and which flow each of them answers. -/

namespace OnionRoute.PacketEngine

open Library PacketProcessor

def TcpSegment.answers (segment : TcpSegment) : FlowKey :=
  ⟨⟨segment.destination, segment.destinationPort⟩, ⟨segment.source, segment.sourcePort⟩⟩

inductive OwnPacket (s : PacketProcessor) : Call → Bytes → Prop
  | rejected {input : PacketEngineInput} {segment : TcpSegment}
      (hc : classify input.packet = .ok (.tcp segment)) (hf : s.flows.lookup segment.key = none) :
      OwnPacket s (.process input) (buildTcpPacket segment.destination segment.source
        segment.destinationPort segment.sourcePort 0 (segment.sequence + 1) .rstAck 0 [])
  | opened {input : PacketEngineInput} {segment : TcpSegment}
      (hc : classify input.packet = .ok (.tcp segment)) (hf : s.flows.lookup segment.key = none) :
      OwnPacket s (.process input) (buildTcpPacket segment.destination segment.source
        segment.destinationPort segment.sourcePort (initialSequence ⟨s.nextFlowId⟩)
        (segment.sequence + 1) .synAck s.config.receiveWindow [])
  | datagram {queryId : UInt64} {wire : Bytes} {client resolver : TransportEndpoint} (now : ℕ)
      (hq : s.pendingDns.lookup queryId = some (.udp client resolver))
      (hl : wire.length ≤ 65507) :
      OwnPacket s (.completeDns queryId wire now)
        (buildUdpPacket resolver.address client.address resolver.port client.port wire)

variable {packet : Bytes} {segment : TcpSegment}

variable {s : PacketProcessor}

lemma rejectSyn_packet {reason : BlockReason}
    (h : .sendSyntheticResponse packet ∈ (s.rejectSyn segment reason).2) :
    packet = buildTcpPacket segment.destination segment.source segment.destinationPort
      segment.sourcePort 0 (segment.sequence + 1) .rstAck 0 [] := by
  simpa [rejectSyn] using h

variable {input : PacketEngineInput}

lemma processTcp_own_packet (hc : classify input.packet = .ok (.tcp segment))
    (hf : s.flows.lookup segment.key = none)
    (h : .sendSyntheticResponse packet ∈ (s.processTcp segment input).2) :
    OwnPacket s (.process input) packet := by
  have hadm := processTcp_admission input hf
  generalize s.processTcp segment input = o at hadm h
  cases hadm with
  | ignored => simp at h
  | unknown => simp at h
  | rejected reason =>
    rw [rejectSyn_packet h]
    exact .rejected hc hf
  | full =>
    simp only [List.mem_append, List.mem_singleton, reduceCtorEq, or_false] at h
    rw [rejectSyn_packet h]
    exact .rejected hc hf
  | dnsOpened =>
    simp only [List.mem_singleton, EngineAction.sendSyntheticResponse.injEq] at h
    rw [h]
    exact .opened hc hf
  | tcpOpened => simp at h

lemma process_packet_of_not_tcp (hn : ∀ segment, classify input.packet ≠ .ok (.tcp segment)) :
    .sendSyntheticResponse packet ∉ (s.process input).2 := by
  intro h
  simp only [process] at h
  split at h
  · simp at h
  · simp [block] at h
  · simp only [processUdp] at h
    split_ifs at h <;> simp [block] at h
  · rename_i hc
    exact hn _ hc
  · simp [block] at h
  · simp [block] at h

lemma completeDns_own_packet {queryId : UInt64} {wire : Bytes} {now : ℕ}
    {client resolver : TransportEndpoint}
    (hq : s.pendingDns.lookup queryId = some (.udp client resolver))
    (h : .sendSyntheticResponse packet ∈ (s.completeDns queryId wire now).2) :
    OwnPacket s (.completeDns queryId wire now) packet := by
  simp only [completeDns, hq] at h
  split_ifs at h with h1 h2
  · simp [block] at h
  · simp [block] at h
  · simp only [List.mem_singleton, EngineAction.sendSyntheticResponse.injEq] at h
    rw [h]
    exact .datagram now hq (not_lt.mp h2)

variable {call : Call}

lemma own_packet (h : .sendSyntheticResponse packet ∈ s.own call) : OwnPacket s call packet := by
  cases call with
  | process input =>
    by_cases ht : ∃ segment, classify input.packet = .ok (.tcp segment)
    · obtain ⟨segment, hc⟩ := ht
      cases hf : s.flows.lookup segment.key with
      | none =>
        simp only [own, hc, hf, Option.isSome_none, Bool.false_eq_true, if_false] at h
        exact processTcp_own_packet hc hf h
      | some flow => simp [own, hc, hf] at h
    · have hn : ∀ segment, classify input.packet ≠ .ok (.tcp segment) :=
        fun segment hc => ht ⟨segment, hc⟩
      simp only [own] at h
      exact absurd h (process_packet_of_not_tcp hn)
  | completeDns queryId wire now =>
    simp only [own] at h
    split at h
    · rename_i hq
      exact completeDns_own_packet hq h
    · simp at h
  | protectedStreamOpened id now | protectedPayload id payload now | resume now healthy =>
    simp only [own] at h
    split_ifs at h <;> simp at h
  | shutdown => simp [own] at h
  | _ => simp [own] at h

variable {config : EngineConfig} {s : PacketProcessor} {events : List Event} {e : Event}
  {flow : FlowRecord}

lemma Run.ports (h : Run config events s) (he : e ∈ events) {key : FlowKey}
    (hf : e.before.flows.lookup key = some flow) :
    flow.key.source.port ≠ 0 ∧ flow.key.destination.port ≠ 0 := by
  refine Run.flow_invariant_before
    (P := fun f => f.key.source.port ≠ 0 ∧ f.key.destination.port ≠ 0) ?_ ?_ h he hf
  · intro s key call flow _ ho
    rw [ho.key_eq]
    cases ho with
    | dns hc hk | tcp hc hk =>
      rw [← hk]
      exact classify_tcp_ports hc
  · intro flow event next hp hn
    rw [(flow.step_same config hn).key]
    exact hp

variable {answer : TcpSegment}

lemma OwnPacket.lookup_none (h : OwnPacket s call packet)
    (hc : classify packet = .ok (.tcp answer)) : s.flows.lookup answer.answers = none := by
  cases h with
  | rejected hin hf | opened hin hf =>
    have hp := classify_tcp_ports hin
    rw [classify_buildTcpPacket _ _ _ _ _ _ _ _ _ hp.2 hp.1 (Nat.zero_le _)] at hc
    obtain rfl := ClassifiedPacket.tcp.inj (Except.ok.inj hc)
    exact hf
  | datagram now hq hl => exact absurd hc (classify_buildUdpPacket_ne_tcp _ _ _ _ _ hl _)

lemma response_inv (hs : flow.key.source.port ≠ 0)
    (hd : flow.key.destination.port ≠ 0) {sequence acknowledgement : UInt32} {flags : TcpFlags}
    {window : UInt16} {payload : Bytes}
    (hc : classify (responseFromValues flow sequence acknowledgement flags window payload) =
      .ok (.tcp answer)) :
    answer = ⟨flow.key.destination.address, flow.key.source.address, flow.key.destination.port,
      flow.key.source.port, sequence, acknowledgement, window, flags, payload⟩ := by
  by_cases hl : payload.length ≤ 65495
  · rw [classify_response flow _ _ _ _ _ hs hd hl] at hc
    exact (ClassifiedPacket.tcp.inj (Except.ok.inj hc)).symm
  · rw [responseFromValues, (buildTcpPacket_eq_nil_iff ..).mpr (not_le.mp hl)] at hc
    cases hc

lemma Run.answer_source (h : Run config events s) (he : e ∈ events)
    (hm : .sendSyntheticResponse packet ∈ e.actions) (hc : classify packet = .ok (.tcp answer))
    (hf : e.before.flows.lookup answer.answers = some flow) :
    .sendSyntheticResponse packet ∈
      (flow.run config (e.before.deliveries answer.answers flow e.call)).2 := by
  have hran := h.ran.2.2 e he
  obtain hown | ⟨key, g, hg, hsent⟩ := hran.sources hm
  · rw [(own_packet hown).lookup_none hc] at hf
    cases hf
  · obtain ⟨past, event, rest, g', _, hg', hpacket⟩ := FlowRecord.mem_run_actions config g hsent
    have hsame := FlowRecord.run_same config g hg'
    have hports := h.ports he hg
    rw [← hsame.key] at hports
    have hem := FlowRecord.step_emitted config g' event _ hpacket
    generalize ha : EngineAction.sendSyntheticResponse packet = a at hem
    cases hem with
    | packet sequence acknowledgement flags window =>
      obtain rfl := EngineAction.sendSyntheticResponse.inj ha
      have hanswer := response_inv hports.1 hports.2 hc
      have hkey : answer.answers = key := by
        rw [hanswer, ← hran.sound.key hg, ← hsame.key]
        rfl
      rw [hkey, hg] at hf
      obtain rfl := Option.some.inj hf
      rw [hkey]
      exact hsent
    | _ => cases ha

end OnionRoute.PacketEngine
