import OnionRoute.PacketEngine.PipelinedDns

/-! Every synthetic packet is an answer. -/

namespace OnionRoute.PacketEngine

open Library PacketProcessor Sample

def Ported (s : PacketProcessor) : Prop :=
  ∀ queryId client resolver, s.pendingDns.lookup queryId = some (.udp client resolver) →
    client.port ≠ 0 ∧ resolver.port ≠ 0

lemma Ported.edit {s t : PacketProcessor} (h : Ported s) (he : Edit s t) : Ported t := by
  intro queryId client resolver hq
  cases he with
  | put | sweep | stop | sleep => exact h queryId client resolver hq
  | remove key => exact h queryId client resolver (removeFlow_pendingDns hq)
  | ask ht =>
    by_cases hid : queryId = s.nextDnsId
    · rw [hid, AList.lookup_insert] at hq
      obtain rfl := Option.some.inj hq
      cases ht with
      | udp _ hc hr => exact ⟨hc, hr⟩
    · rw [Table.lookup_insert_of_ne _ hid] at hq
      exact h queryId client resolver hq
  | take => exact h queryId client resolver (Table.lookup_erase_eq_some hq).2
  | forget => simp at hq

lemma Run.udp_ports {config : EngineConfig} {events : List Event} {s : PacketProcessor}
    (h : Run config events s) {queryId : UInt64} {client resolver : TransportEndpoint}
    (hq : s.pendingDns.lookup queryId = some (.udp client resolver)) :
    client.port ≠ 0 ∧ resolver.port ≠ 0 := by
  refine Run.invariant (I := Ported) (fun hnew => ?_) (fun hs hr queryId client resolver hl => ?_)
    Ported.edit (fun _ _ hs => hs) h queryId client resolver hq
  · intro queryId client resolver hl
    obtain rfl := new_eq hnew
    simp at hl
  · exact hs queryId client resolver (by rw [← hr.pendingDns_lookup, hl])

def Event.gives (key : FlowKey) (e : Event) : Option Bytes :=
  match e.call with
  | .protectedPayload flowId payload _ =>
    if e.before.ids.lookup flowId = some key then some payload else none
  | _ => (e.answer key).map framed

def Given (key : FlowKey) (events : List Event) (payload : Bytes) : Prop :=
  payload = [] ∨ ∃ e ∈ events, e.gives key = some payload

inductive Answers (past : List Event) (e : Event) (packet : Bytes) : Prop
  | toFlow {answer : TcpSegment} {flow : FlowRecord} (hc : classify packet = .ok (.tcp answer))
      (hf : e.before.flows.lookup answer.answers = some flow)
      (hp : Given answer.answers (past ++ [e]) answer.payload)
  | toSegment {answer segment : TcpSegment} (hc : classify packet = .ok (.tcp answer))
      (hs : e.call.segment = some segment) (hf : e.before.flows.lookup segment.key = none)
      (hk : answer.answers = segment.key) (hp : answer.payload = [])
  | toQuery {datagram : UdpDatagram} {queryId : UInt64} {now : ℕ}
      {client resolver : TransportEndpoint} (hc : classify packet = .ok (.udp datagram))
      (hcall : e.call = .completeDns queryId datagram.payload now)
      (hq : e.before.pendingDns.lookup queryId = some (.udp client resolver))
      (hs : resolver = ⟨datagram.source, datagram.sourcePort⟩)
      (hd : client = ⟨datagram.destination, datagram.destinationPort⟩)

def Event.Fits (e : Event) : Prop :=
  ∀ key payload flow, e.gives key = some payload → e.before.flows.lookup key = some flow →
    flow.canAccept payload.length = true → payload.length ≤ 65495

def Backed (ok : Bytes → Prop) (flow : FlowRecord) : Prop :=
  ∀ o, flow.outstandingToApplication = some o → ok o.payload

variable {payload : Bytes}

namespace FlowRecord

variable {config : EngineConfig} {ok : Bytes → Prop} {flow next : FlowRecord} {event : FlowEvent}

lemma step_backed (hnil : ok [])
    (hgive : ∀ payload now, event = .payload payload now →
      flow.canAccept payload.length = true → ok payload)
    (h : Backed ok flow) (hn : (flow.step config event).1 = some next) : Backed ok next := by
  by_cases hp : ∃ payload now, event = .payload payload now
  · obtain ⟨payload, now, rfl⟩ := hp
    simp only [step] at hn
    split_ifs at hn with he hc
    · obtain rfl := Option.some.inj hn
      exact h
    · obtain rfl := Option.some.inj hn
      intro o ho
      obtain rfl := Option.some.inj ho
      exact hgive payload now rfl (by simpa using hc)
  by_cases hf : ∃ now, event = .fin now
  · obtain ⟨now, rfl⟩ := hf
    simp only [step] at hn
    split_ifs at hn
    obtain rfl := Option.some.inj hn
    intro o ho
    obtain rfl := Option.some.inj ho
    exact hnil
  obtain ⟨_, hout⟩ := step_server config (fun payload now he => hp ⟨payload, now, he⟩)
    (fun now he => hf ⟨now, he⟩) hn
  intro o ho
  obtain ⟨o', ho', _, hpay⟩ := hout o ho
  rw [hpay]
  exact h o' ho'

lemma sends_backed (hnil : ok []) (hgive : ∀ payload now, event = .payload payload now →
      flow.canAccept payload.length = true → ok payload)
    (h : Backed ok flow) (hs : flow.Sends event payload) : ok payload := by
  cases event with
  | payload bytes now =>
    rcases hs with rfl | ⟨rfl, hc⟩
    · exact hnil
    · exact hgive _ now rfl hc
  | tick now =>
    obtain ⟨o, ho, rfl⟩ := hs
    exact h o ho
  | _ =>
    have hs : payload = [] := hs
    rw [hs]
    exact hnil

end FlowRecord

variable {packet : Bytes}

section Run

variable {config : EngineConfig} {events past rest : List Event} {s : PacketProcessor} {e : Event}
  {key : FlowKey} {flow : FlowRecord}

lemma Event.gives_of_delivered {now : ℕ}
    (h : .payload payload now ∈ e.before.deliveries key flow e.call) :
    e.gives key = some payload := by
  have hd := delivered_of_mem h
  generalize he : FlowEvent.payload payload now = event at hd
  generalize hc : e.call = call at hd
  cases hd with
  | payload bytes now' hid =>
    obtain ⟨rfl, _⟩ := FlowEvent.payload.inj he
    simp only [Event.gives, hc, hid, if_true]
  | answer now' hq hv hid =>
    obtain ⟨rfl, _⟩ := FlowEvent.payload.inj he
    simp only [Event.gives, Event.answer, hc, hq, hid, if_true, Option.map_some]
  | _ => cases he

def SentWith (key : FlowKey) (ok : Bytes → Prop) (packet : Bytes) : Prop :=
  ∃ (g : FlowRecord) (sequence acknowledgement : UInt32) (flags : TcpFlags) (window : UInt16)
    (payload : Bytes), g.key = key ∧ ok payload ∧
      packet = responseFromValues g sequence acknowledgement flags window payload

lemma FlowRecord.step_sentWith {ok : Bytes → Prop} (g : FlowRecord) (event : FlowEvent)
    (hok : ∀ payload, g.Sends event payload → ok payload)
    (hm : .sendSyntheticResponse packet ∈ (g.step config event).2) :
    SentWith g.key ok packet := by
  have hem := g.step_emitted config event _ hm
  generalize ha : EngineAction.sendSyntheticResponse packet = a at hem
  cases hem with
  | packet sequence acknowledgement flags window hs =>
    exact ⟨g, sequence, acknowledgement, flags, window, _, rfl, hok _ hs,
      EngineAction.sendSyntheticResponse.inj ha⟩
  | _ => cases ha

lemma Event.Ran.backed (h : e.Ran config) (hf : e.before.flows.lookup key = some flow)
    (ok : Bytes → Prop) (hnil : ok [])
    (hgive : ∀ payload, e.gives key = some payload → flow.canAccept payload.length = true →
      ok payload) (hb : Backed ok flow) :
    (∀ packet, .sendSyntheticResponse packet ∈
      (flow.run config (e.before.deliveries key flow e.call)).2 → SentWith flow.key ok packet) ∧
    ∀ next, e.after.flows.lookup key = some next → Backed ok next := by
  have hgive' : ∀ event ∈ e.before.deliveries key flow e.call, ∀ payload now,
      event = .payload payload now → flow.canAccept payload.length = true → ok payload := by
    rintro event hm payload now rfl
    exact hgive payload (Event.gives_of_delivered hm)
  rw [h.lookup hf]
  obtain hds | ⟨event, hds⟩ | ⟨now, reason, hds⟩ := deliveries_cases hf e.call
  · rw [hds]
    refine ⟨fun packet hm => absurd hm List.not_mem_nil, fun next hn => ?_⟩
    obtain rfl := Option.some.inj hn
    exact hb
  · have hg := hgive' event (by rw [hds]; exact List.mem_cons_self)
    rw [hds, FlowRecord.run_single]
    exact ⟨fun packet => flow.step_sentWith event fun payload =>
      FlowRecord.sends_backed hnil hg hb, fun next => FlowRecord.step_backed hnil hg hb⟩
  · have hrun : flow.run config [.tick now, .failed reason] =
        (none, (flow.step config (.tick now)).2 ++
          ((flow.afterTick config now).step config (.failed reason)).2) := rfl
    rw [hds, hrun]
    refine ⟨fun packet hm => ?_, fun next hn => (by cases hn)⟩
    rcases List.mem_append.mp hm with hm | hm
    · refine flow.step_sentWith _ (fun payload hs => ?_) hm
      obtain ⟨o, ho, rfl⟩ := hs
      exact hb o ho
    · rw [← (flow.afterTick_same config now).key]
      refine FlowRecord.step_sentWith _ _ (fun payload hs => ?_) hm
      rw [show payload = [] from hs]
      exact hnil

lemma Given.mono (h : Given key past payload) : Given key (past ++ [e]) payload :=
  h.imp id fun ⟨e', he', hg⟩ => ⟨e', List.mem_append_left _ he', hg⟩

lemma Given.here (h : e.gives key = some payload) :
    Given key (past ++ [e]) payload :=
  .inr ⟨e, List.mem_append_right _ List.mem_cons_self, h⟩

lemma Run.backed (h : Run config past s) (hfits : ∀ e ∈ past, e.Fits)
    (hf : s.flows.lookup key = some flow) :
    Backed (fun payload => payload.length ≤ 65495 ∧ Given key past payload) flow := by
  refine Run.history_invariant (P := fun past key flow => (∀ e ∈ past, e.Fits) →
    Backed (fun payload => payload.length ≤ 65495 ∧ Given key past payload) flow) ?_ ?_ h hf hfits
  · intro past e key flow hran ho _ o hout
    generalize e.call = call at ho
    cases ho <;> cases hout
  · intro past e key flow next hran hb hP hn hfits
    refine (hran.backed hb _ ⟨Nat.zero_le _, .inl rfl⟩ (fun payload hg hc => ?_) ?_).2 next hn
    · exact ⟨hfits e (by simp) key payload flow hg hb hc, .here hg⟩
    · intro o ho
      have hold := hP (fun e' he' => hfits e' (List.mem_append_left _ he')) o ho
      exact ⟨hold.1, hold.2.mono⟩

lemma Run.answers_flow (h : Run config (past ++ e :: rest) s)
    (hfits : ∀ e' ∈ past ++ [e], e'.Fits) (hf : e.before.flows.lookup key = some flow)
    (hm : .sendSyntheticResponse packet ∈
      (flow.run config (e.before.deliveries key flow e.call)).2) : Answers past e packet := by
  have he : e ∈ past ++ e :: rest := by simp
  have hran := h.ran.2.2 e he
  obtain ⟨t, hpast, hsame⟩ := h.past
  have hb := hpast.backed (fun e' he' => hfits e' (List.mem_append_left _ he'))
    (by rw [← hsame.flows_lookup, hf])
  obtain ⟨g, sequence, acknowledgement, flags, window, payload, hk, ⟨hl, hgiven⟩, rfl⟩ :=
    (hran.backed hf (fun payload => payload.length ≤ 65495 ∧ Given key (past ++ [e]) payload)
      ⟨Nat.zero_le _, .inl rfl⟩
      (fun payload hg hc => ⟨hfits e (by simp) key payload flow hg hf hc, .here hg⟩)
      (fun o ho => ⟨(hb o ho).1, (hb o ho).2.mono⟩)).1 packet hm
  have hports := h.ports he hf
  have hkey : flow.key = key := hran.sound.key hf
  rw [← hk] at hports
  have hc := classify_response g sequence acknowledgement flags window payload hports.1 hports.2 hl
  rw [← hk] at hkey
  have hanswers : TcpSegment.answers ⟨g.key.destination.address, g.key.source.address,
      g.key.destination.port, g.key.source.port, sequence, acknowledgement, window, flags,
      payload⟩ = key := hkey
  rw [← hanswers] at hf hgiven
  exact .toFlow hc hf hgiven

lemma Run.answers_own (h : Run config (past ++ e :: rest) s)
    (ho : OwnPacket e.before e.call packet) : Answers past e packet := by
  generalize hcall : e.call = call at ho
  cases ho with
  | rejected hin hf | opened hin hf =>
    have hp := classify_tcp_ports hin
    exact .toSegment (classify_buildTcpPacket _ _ _ _ _ _ _ _ _ hp.2 hp.1 (Nat.zero_le _))
      (by rw [hcall, Call.segment_process hin]) hf rfl rfl
  | datagram now hq hl =>
    obtain ⟨t, hpast, hsame⟩ := h.past
    have hp := hpast.udp_ports (by rw [← hsame.pendingDns_lookup]; exact hq)
    exact .toQuery (classify_buildUdpPacket _ _ _ _ _ hp.2 hp.1 hl) hcall hq rfl rfl

lemma Answers.ne_nil (h : Answers past e packet) : packet ≠ [] := by
  rintro rfl
  cases h with
  | toFlow hc => cases hc
  | toSegment hc => cases hc
  | toQuery hc => cases hc

section

variable (h : Run config events s)
include h

lemma Run.limits (he : e ∈ events) (hf : e.before.flows.lookup key = some flow) :
    flow.snapshot.limits = config.buffers := by
  refine Run.flow_invariant_before (P := fun f => f.snapshot.limits = config.buffers) ?_ ?_ h he hf
  · intro s key call flow hc ho
    rw [ho.limits_eq, hc]
  · intro flow event next hP hn
    rw [(flow.step_same config hn).limits]
    exact hP

lemma Run.valid : config.valid = true := by
  obtain ⟨s₀, hnew, _⟩ := h
  simp only [PacketProcessor.new] at hnew
  split_ifs at hnew with hv
  exact hv

lemma Run.delivers (he : e ∈ events) (hf : e.before.flows.lookup key = some flow)
    (hg : e.gives key = some payload) (hacc : flow.canAccept payload.length = true)
    (hlong : 65495 < payload.length) :
    ∃ now, e.before.deliveries key flow e.call = [.payload payload now] := by
  have hlimit : payload.length ≤ 65535 := by
    have hv := h.valid
    simp only [EngineConfig.valid, Bool.and_eq_true, decide_eq_true_eq] at hv
    simp only [FlowRecord.canAccept, h.limits he hf, Bool.and_eq_true, decide_eq_true_eq] at hacc
    exact hacc.1.trans hv.2
  simp only [Event.gives] at hg
  split at hg
  · rename_i flowId payload' now hc
    split_ifs at hg with hid
    obtain rfl := Option.some.inj hg
    refine ⟨now, ?_⟩
    simp only [deliveries, directed, hc, callback, hid, if_true, failures, failuresOf_nil,
      List.append_nil]
  · obtain ⟨wire, ha, rfl⟩ := Option.map_eq_some_iff.mp hg
    obtain ⟨queryId, now, flowId, hc, hq, hid⟩ := Event.answer_eq_some ha
    have hlen : (framed wire).length = wire.length + 2 := by simp [framed, Nat.add_comm]
    have hv : validAnswer wire = true := by
      have hne : wire ≠ [] := by
        rintro rfl
        simp [hlen] at hlong
      have hle : wire.length ≤ maxDnsMessageBytes := by
        simp only [maxDnsMessageBytes]
        omega
      simp [validAnswer, hne, hle]
    refine ⟨now, ?_⟩
    simp only [deliveries, directed, hc, hq, hv, if_true, callback, hid, failures, failuresOf_nil,
      List.append_nil]

lemma Run.sends_empty (he : e ∈ events) (hf : e.before.flows.lookup key = some flow)
    (hg : e.gives key = some payload) (hacc : flow.canAccept payload.length = true)
    (hlong : 65495 < payload.length) : .sendSyntheticResponse [] ∈ e.actions := by
  obtain ⟨now, hds⟩ := h.delivers he hf hg hacc hlong
  have hsent := (h.ran.2.2 e he).emits hf
  have hempty : responseFromValues flow flow.serverNext flow.clientNext
      { TcpFlags.ackOnly with psh := true } config.receiveWindow payload = [] :=
    (buildTcpPacket_eq_nil_iff ..).mpr hlong
  have hne : payload.isEmpty = false := by
    cases payload with
    | nil => cases hlong
    | cons => rfl
  have hstep : (flow.step config (.payload payload now)).2 = [.sendSyntheticResponse []] := by
    simp only [FlowRecord.step, hne, hacc, Bool.not_true, Bool.false_eq_true, if_false,
      FlowRecord.sendPayload, hempty]
  rw [hds, FlowRecord.run_single, hstep] at hsent
  exact hsent List.mem_cons_self

lemma Run.fits (hl : config.buffers.toApplicationBytes ≤ 65495) : ∀ e ∈ events, e.Fits := by
  intro e he key payload flow _ hf hacc
  simp only [FlowRecord.canAccept, h.limits he hf, Bool.and_eq_true, decide_eq_true_eq] at hacc
  exact hacc.1.trans hl

end

theorem packets_answer_iff (h : Run config events s) :
    (∀ past e rest, events = past ++ e :: rest → ∀ packet,
      .sendSyntheticResponse packet ∈ e.actions → packet ≠ [] ∧ Answers past e packet) ↔
    ∀ e ∈ events, e.Fits := by
  constructor
  · intro hall e he key payload flow hg hf hacc
    by_contra hlong
    have hempty := h.sends_empty he hf hg hacc (not_le.mp hlong)
    obtain ⟨past, rest, rfl⟩ := List.append_of_mem he
    exact (hall past e rest rfl [] hempty).1 rfl
  · rintro hfits past e rest rfl packet hm
    have hans : Answers past e packet := by
      obtain hown | ⟨key, flow, hf, hsent⟩ := (h.ran.2.2 e (by simp)).sources hm
      · exact h.answers_own (own_packet hown)
      · refine h.answers_flow (fun e' he' => hfits e' ?_) hf hsent
        rcases List.mem_append.mp he' with he' | he'
        · exact List.mem_append_left _ he'
        · rw [List.mem_singleton.mp he']
          simp
    exact ⟨hans.ne_nil, hans⟩

end Run

open Sample in
theorem packets_answer_iff_default :
    (∀ e ∈ eventsOf start
        (handshake ++ [.protectedPayload flowId [1, 2, 3] 0]), e.Fits) ∧
      ∀ past e rest, eventsOf start
          (handshake ++ [.protectedPayload flowId [1, 2, 3] 0]) = past ++ e :: rest →
        ∀ packet, .sendSyntheticResponse packet ∈ e.actions →
          packet ≠ [] ∧ Answers past e packet := by
  have hfits := (run_eventsOf new_default
    (handshake ++ [.protectedPayload flowId [1, 2, 3] 0])).fits (by decide)
  exact ⟨hfits, (packets_answer_iff (run_eventsOf new_default _)).mpr hfits⟩

namespace Sample

def wide : EngineConfig :=
  { EngineConfig.default with buffers := ⟨256 * 1024, 65535⟩ }

def wideStart : PacketProcessor := ⟨wide, ∅, ∅, ∅, 1, 1, true, none⟩

lemma new_wide : PacketProcessor.new wide = some wideStart := rfl

def oversized : Bytes := List.replicate 65496 0

def oversizedPayload : Event :=
  eventOf (finalOf wideStart handshake) (.protectedPayload flowId oversized 0)

def wideFlow : FlowRecord :=
  { PacketProcessor.tcpFlow wide flowId key synSegment ⟨none, 0⟩ route with
    snapshot.state := .established
    snapshot.timestamps.connectStartedMs := none }

end Sample

open Sample in
theorem oversized_payload_sends_empty_packet :
    wide.valid = true ∧
      Run wide (eventsOf wideStart handshake ++ [oversizedPayload])
        oversizedPayload.after ∧
      .sendSyntheticResponse [] ∈ oversizedPayload.actions := by
  have hrun := run_eventOf new_wide handshake
    (.protectedPayload flowId oversized 0)
  have hf : oversizedPayload.before.flows.lookup key = some wideFlow := by
    show (finalOf wideStart handshake).flows.lookup key = _
    decide +kernel
  have hid : (finalOf wideStart handshake).ids.lookup flowId =
      some key := by decide +kernel
  have hg : oversizedPayload.gives key = some oversized := by
    simp only [Event.gives, oversizedPayload, eventOf, hid, if_true]
  have hlen : oversized.length = 65496 := List.length_replicate
  have hacc : wideFlow.canAccept oversized.length = true := by
    rw [hlen]
    decide
  refine ⟨by decide, hrun, ?_⟩
  exact Run.sends_empty hrun (List.mem_append_right _ List.mem_cons_self) hf hg hacc
    (by rw [hlen]; decide)

end OnionRoute.PacketEngine
