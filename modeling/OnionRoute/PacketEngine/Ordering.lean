import OnionRoute.PacketEngine.Runs

/-! The forwarded bytes are a beginning of the application's byte stream. -/

namespace OnionRoute.PacketEngine

open Library

def forwardedBytes (actions : List EngineAction) : Bytes :=
  actions.flatMap fun
    | .forwardPayload _ payload => payload
    | _ => []

@[simp] lemma forwardedBytes_nil : forwardedBytes [] = [] := rfl

@[simp] lemma forwardedBytes_append (xs ys : List EngineAction) :
    forwardedBytes (xs ++ ys) = forwardedBytes xs ++ forwardedBytes ys :=
  List.flatMap_append

/-- The segment carries bytes of `stream` at the offset of its sequence number, and a FIN only where
the stream ends. -/
def Carries (stream : Bytes) (isn : UInt32) (segment : TcpSegment) : Prop :=
  segment.payload ≠ [] ∨ segment.flags.fin = true →
    serialOffset (isn + 1) segment.sequence + segment.payload.length ≤ stream.length ∧
      segment.payload = (stream.drop (serialOffset (isn + 1) segment.sequence)).take
        segment.payload.length ∧
      (segment.flags.fin = true →
        serialOffset (isn + 1) segment.sequence + segment.payload.length = stream.length)

instance (stream : Bytes) (isn : UInt32) (segment : TcpSegment) :
    Decidable (Carries stream isn segment) :=
  inferInstanceAs (Decidable (_ → _))

structure Tracks (stream : Bytes) (isn : UInt32) (sent : Bytes) (flow : FlowRecord) : Prop where
  beginning : sent <+: stream
  clientNext : flow.clientNext =
    isn + 1 + UInt32.ofNat (sent.length + if flow.finAccepted then 1 else 0)
  whole : flow.finAccepted = true → sent = stream

namespace Tracks

variable {stream sent : Bytes} {isn : UInt32} {flow next : FlowRecord}
  (h : Tracks stream isn sent flow)
include h

lemma of_same (hc : next.clientNext = flow.clientNext) (hf : next.finAccepted = flow.finAccepted) :
    Tracks stream isn sent next :=
  ⟨h.beginning, by rw [hc, hf, h.clientNext], by rw [hf]; exact h.whole⟩

lemma length_le : sent.length ≤ stream.length :=
  h.beginning.length_le

variable (hlen : stream.length < 2147483648)
include hlen

lemma offset_eq {n : ℕ} (hn : n < 4294967296) (he : isn + 1 + UInt32.ofNat n = flow.clientNext) :
    n = sent.length + if flow.finAccepted then 1 else 0 := by
  have hle := h.length_le
  refine add_ofNat_inj hn ?_ (he.trans h.clientNext)
  split_ifs <;> omega

lemma forward {segment : TcpSegment} (hp : segment.payload ≠ [])
    (hs : segment.sequence = flow.clientNext) (hf : flow.finAccepted = false)
    (hcarry : Carries stream isn segment) :
    Tracks stream isn (sent ++ segment.payload) (flow.forward segment.payload) := by
  obtain ⟨hle, hpay, _⟩ := hcarry (.inl hp)
  have ho : serialOffset (isn + 1) segment.sequence = sent.length := by
    have := h.offset_eq hlen (serialOffset_lt (isn + 1) segment.sequence)
      (by rw [add_serialOffset, hs])
    simpa [hf] using this
  rw [ho] at hpay hle
  obtain ⟨rest, hrest⟩ := h.beginning
  refine ⟨?_, ?_, fun hfin => ?_⟩
  · rw [hpay, ← hrest, List.drop_left]
    exact (List.prefix_append_right_inj sent).mpr ( List.take_prefix _ _)
  · have hfin : (flow.forward segment.payload).finAccepted = false := hf
    rw [hfin]
    simp only [FlowRecord.forward, h.clientNext, hf, Bool.false_eq_true, if_false, Nat.add_zero,
      List.length_append, add_ofNat_add_ofNat]
  · rw [show (flow.forward segment.payload).finAccepted = flow.finAccepted from rfl, hf] at hfin
    cases hfin

lemma acceptFin {segment : TcpSegment} (hfin : segment.flags.fin = true)
    (he : SegmentProgress.finEnd segment = flow.clientNext) (hcarry : Carries stream isn segment)
    {state : TcpFlowState} (hstate : state = .halfClosedLocal ∨ state = .closing) :
    Tracks stream isn sent (flow.acceptFin state) := by
  obtain ⟨hle, _, hend⟩ := hcarry (.inr hfin)
  have hend := hend hfin
  have ho : serialOffset (isn + 1) segment.sequence + segment.payload.length =
      sent.length + if flow.finAccepted then 1 else 0 := by
    refine h.offset_eq hlen (by omega) ?_
    rw [← he, SegmentProgress.finEnd, ← add_ofNat_add_ofNat, add_serialOffset]
  have hsent : flow.finAccepted = false ∧ sent.length = stream.length := by
    have hl := h.length_le
    cases hf : flow.finAccepted with
    | false => exact ⟨rfl, by simp [hf] at ho; omega⟩
    | true =>
      have := congrArg List.length (h.whole hf)
      simp [hf] at ho
      omega
  have hall : sent = stream := h.beginning.eq_of_length hsent.2
  have hacc : (flow.acceptFin state).finAccepted = true := (FlowRecord.finAccepted_iff _).mpr hstate
  refine ⟨h.beginning, ?_, fun _ => hall⟩
  rw [hacc]
  simp only [FlowRecord.acceptFin, h.clientNext, hsent.1, Bool.false_eq_true, if_false, if_true,
    Nat.add_zero]
  exact add_ofNat_add_ofNat _ _ 1

end Tracks

namespace SegmentProgress

variable {config : EngineConfig} {stream sent : Bytes} {isn : UInt32} {segment : TcpSegment}
  {p q : SegmentProgress}

def Tracking (stream : Bytes) (isn : UInt32) (sent : Bytes) (p : SegmentProgress) : Prop :=
  Tracks stream isn (sent ++ forwardedBytes p.actions) p.flow

variable {actions : List EngineAction}

lemma Tracking.emit (h : Tracking stream isn sent p) (ha : forwardedBytes actions = []) :
    Tracking stream isn sent (p.emit actions) := by
  simpa [Tracking, ha] using h

lemma forwardedBytes_of_reporting (h : p.flow.Reporting config actions) :
    forwardedBytes actions = [] := by
  refine List.flatMap_eq_nil_iff.mpr fun a ha => ?_
  cases h a ha <;> rfl

lemma Tracking.edit (h : Tracking stream isn sent p) (hd : p.flow.dnsTcp = false)
    (hlen : stream.length < 2147483648) (hcarry : Carries stream isn segment)
    (he : Edit config segment p q) : Tracking stream isn sent q := by
  cases he with
  | report hr | refuse hr => exact h.emit (forwardedBytes_of_reporting hr)
  | establish hs =>
    rw [FlowRecord.establish, if_pos hs]
    exact Tracks.of_same h rfl (by simp [FlowRecord.finAccepted, hs])
  | clear => exact Tracks.of_same h rfl rfl
  | forward hp hf hs =>
    have := Tracks.forward h hlen hp hs hf hcarry
    simpa [Tracking, forwardedBytes] using this
  | buffer _ _ _ hdns | ask hdns =>
    rw [hd] at hdns
    cases hdns
  | close hfin hend =>
    have hq : Tracking stream isn sent { p with
        flow := p.flow.acceptFin .closing, remove := segment.payload.isEmpty } :=
      Tracks.acceptFin h hlen hfin hend hcarry (.inr rfl)
    exact hq.emit rfl
  | halfClose hfin hend =>
    have hq : Tracking stream isn sent { p with flow := p.flow.acceptFin .halfClosedLocal } :=
      Tracks.acceptFin h hlen hfin hend hcarry (.inl rfl)
    refine hq.emit ?_
    split_ifs <;> rfl
  | complete | finish => exact Tracking.emit (p := { p with remove := true }) h rfl

end SegmentProgress

namespace FlowRecord

variable (config : EngineConfig) {stream sent : Bytes} {isn : UInt32} {flow next : FlowRecord}

open SegmentProgress

lemma receiveSegment_tracking (h : Tracks stream isn sent flow)
    (hlen : stream.length < 2147483648) (hd : flow.dnsTcp = false) {segment : TcpSegment}
    (hcarry : Carries stream isn segment) (pendingDns : PendingDns) (nextDnsId : UInt64) (now : ℕ) :
    Tracking stream isn sent (flow.receiveSegment config pendingDns nextDnsId segment now) := by
  have h0 : Tracking stream isn sent (flow.arrival pendingDns nextDnsId now) := by
    have ht : Tracks stream isn sent (flow.touch now) := h.of_same rfl rfl
    simpa [Tracking, arrival] using ht
  have hedit : ∀ {p q}, Tracking stream isn sent p ∧ Same flow p.flow → Edit config segment p q →
      Tracking stream isn sent q ∧ Same flow q.flow := fun h he =>
    ⟨h.1.edit (h.2.dnsTcp.trans hd) hlen hcarry he, h.2.trans he.same⟩
  exact (receiveSegment_invariant hedit ⟨h0, rfl, rfl, rfl, rfl⟩).1

lemma step_forwarded_of_not_segment (flow : FlowRecord) {event : FlowEvent}
    (h : ∀ pendingDns nextDnsId segment now, event ≠ .segment pendingDns nextDnsId segment now) :
    forwardedBytes (flow.step config event).2 = [] := by
  have hstep := step_cases config flow event
  generalize (flow.step config event).1 = next, (flow.step config event).2 = actions at hstep
  cases hstep with
  | received | removed => exact absurd rfl (h _ _ _ _)
  | _ => rfl

def CarriedBy (stream : Bytes) (isn : UInt32) (events : List FlowEvent) : Prop :=
  ∀ pendingDns nextDnsId segment now, .segment pendingDns nextDnsId segment now ∈ events →
    Carries stream isn segment

lemma step_tracks (h : Tracks stream isn sent flow) (hlen : stream.length < 2147483648)
    (hd : flow.dnsTcp = false) (event : FlowEvent) (hcarry : CarriedBy stream isn [event]) :
    sent ++ forwardedBytes (flow.step config event).2 <+: stream ∧
      ∀ next, (flow.step config event).1 = some next →
        Tracks stream isn (sent ++ forwardedBytes (flow.step config event).2) next := by
  by_cases hseg : ∃ pendingDns nextDnsId segment now,
      event = .segment pendingDns nextDnsId segment now
  · obtain ⟨pendingDns, nextDnsId, segment, now, rfl⟩ := hseg
    have ht := receiveSegment_tracking config h hlen hd
      (hcarry pendingDns nextDnsId segment now (by simp)) pendingDns nextDnsId now
    refine ⟨ht.beginning, fun next hn => ?_⟩
    simp only [step] at hn
    split_ifs at hn
    obtain rfl := Option.some.inj hn
    exact ht
  · have hseg : ∀ pendingDns nextDnsId segment now,
        event ≠ .segment pendingDns nextDnsId segment now :=
      fun pendingDns nextDnsId segment now he => hseg ⟨pendingDns, nextDnsId, segment, now, he⟩
    rw [step_forwarded_of_not_segment config flow hseg, List.append_nil]
    refine ⟨h.beginning, fun next hn => ?_⟩
    obtain ⟨hc, hf, _⟩ := step_client_of_not_segment config hseg hn
    exact h.of_same hc hf

variable {events : List FlowEvent}

lemma run_tracks (h : Tracks stream isn sent flow) (hlen : stream.length < 2147483648)
    (hd : flow.dnsTcp = false) (hcarry : CarriedBy stream isn events) :
    sent ++ forwardedBytes (flow.run config events).2 <+: stream ∧
      ∀ next, (flow.run config events).1 = some next →
        Tracks stream isn (sent ++ forwardedBytes (flow.run config events).2) next := by
  induction events generalizing flow sent with
  | nil =>
    simp only [run_nil, forwardedBytes_nil, List.append_nil]
    refine ⟨h.beginning, fun next hn => ?_⟩
    obtain rfl := Option.some.inj hn
    exact h
  | cons event events ih =>
    obtain ⟨hb, hn⟩ := step_tracks config h hlen hd event fun a b c d hm =>
      hcarry a b c d (List.mem_cons.mpr (.inl (List.mem_singleton.mp hm)))
    simp only [run]
    cases hs : flow.step config event with
    | mk r actions =>
      rw [hs] at hb hn
      cases r with
      | none => exact ⟨hb, fun next hnone => by cases hnone⟩
      | some g =>
        have hg : g.dnsTcp = false := (step_same config flow (by rw [hs])).dnsTcp.trans hd
        have := ih (hn g rfl) hg fun a b c d hm => hcarry a b c d (List.mem_cons_of_mem _ hm)
        simpa only [forwardedBytes_append, List.append_assoc] using this

lemma run_forwarded_of_no_segment (flow : FlowRecord)
    (h : ∀ pendingDns nextDnsId segment now, .segment pendingDns nextDnsId segment now ∉ events) :
    forwardedBytes (flow.run config events).2 = [] := by
  induction events generalizing flow with
  | nil => rfl
  | cons event events ih =>
    have he := step_forwarded_of_not_segment config flow fun a b c d hm =>
      h a b c d (List.mem_cons.mpr (.inl hm.symm))
    simp only [run]
    cases hs : flow.step config event with
    | mk r actions =>
      rw [hs] at he
      cases r with
      | none => exact he
      | some g =>
        have := ih g fun a b c d hm => h a b c d (List.mem_cons_of_mem _ hm)
        rw [forwardedBytes_append, this, he, List.append_nil]

end FlowRecord

open PacketProcessor

def Event.forwarded (key : FlowKey) (e : Event) : Bytes :=
  match e.call.segment with
  | some segment => if segment.key = key then forwardedBytes e.actions else []
  | none => []

def forwarded (key : FlowKey) (events : List Event) : Bytes :=
  events.flatMap (Event.forwarded key)

lemma forwardedBytes_failFlow (s : PacketProcessor) (id : FlowId) (reason : BlockReason) :
    forwardedBytes (s.failFlow id reason).2 = [] := by
  unfold failFlow
  split <;> rfl

section Forwarded

variable {config : EngineConfig} {key : FlowKey} {flow : FlowRecord}

lemma processTcp_forwarded {s : PacketProcessor} {input : PacketEngineInput} {segment : TcpSegment}
    (hc : classify input.packet = .ok (.tcp segment))
    (hf : s.flows.lookup segment.key = some flow) :
    forwardedBytes (s.processTcp segment input).2 =
      forwardedBytes (flow.run s.config (s.deliveries segment.key flow (.process input))).2 := by
  have hfailing : s.directed segment.key (.process input) = [] →
      forwardedBytes (flow.run s.config (s.deliveries segment.key flow (.process input))).2 = [] := by
    intro hd
    obtain hn | ⟨reason, hn, _⟩ := s.failuresOf_cases segment.key flow (s.failures (.process input))
    · rw [deliveries, hd, hn]
      rfl
    · rw [deliveries, hd, hn]
      rfl
  have hdir := directed_process (s := s) hc segment.key
  have hfail := failures_process hc hf
  have hdis := processTcp_dispatch hf input
  generalize s.processTcp segment input = o at hdis
  cases hdis with
  | malformed hm =>
    rw [forwardedBytes_failFlow, hfailing]
    simp [hdir, hm]
  | reset hm hr =>
    have hn : s.deliveries segment.key flow (.process input) = [.reset] := by
      simp [deliveries, hdir, hfail, hm, hr, failuresOf]
    rw [hn]
    rfl
  | unprotected hm hr hp =>
    rw [forwardedBytes_failFlow, hfailing]
    simp [hdir, hm, hr, hp]
  | received hm hr hp =>
    have hn : s.deliveries segment.key flow (.process input) =
        [.segment s.pendingDns s.nextDnsId segment input.platform.monotonicMs] := by
      simp [deliveries, hdir, hfail, hm, hr, hp, failuresOf]
    rw [hn, FlowRecord.run_single]
    rfl

lemma Event.Ran.forwarded_eq {e : Event} (h : e.Ran config)
    (hf : e.before.flows.lookup key = some flow) :
    e.forwarded key =
      forwardedBytes (flow.run config (e.before.deliveries key flow e.call)).2 := by
  by_cases hseg : ∃ segment, e.call.segment = some segment ∧ segment.key = key
  · obtain ⟨segment, hs, rfl⟩ := hseg
    obtain ⟨input, hcall, hc⟩ := Call.segment_eq_some hs
    have ha : e.actions = (e.before.processTcp segment input).2 := by
      rw [h.actions_eq, hcall]
      exact congrArg Prod.snd (process_of_tcp hc)
    rw [Event.forwarded, hs]
    simp only [if_true]
    rw [ha, processTcp_forwarded hc hf, hcall, h.config]
  · have hnone : e.forwarded key = [] := by
      unfold Event.forwarded
      split
      · rename_i segment hs
        exact if_neg fun hk => hseg ⟨segment, hs, hk⟩
      · rfl
    rw [hnone, FlowRecord.run_forwarded_of_no_segment]
    intro a b segment d hm
    obtain ⟨hs, hk, _⟩ := segment_mem_deliveries hm
    exact hseg ⟨segment, hs, hk⟩

end Forwarded

lemma life_tracks {config : EngineConfig} {s t : PacketProcessor} {life : List Event}
    {key : FlowKey} {flow : FlowRecord} {stream : Bytes} {isn : UInt32}
    (h : Trace Step s life t) (hs : s.Sound) (hc : s.config = config)
    (hlive : ∀ e ∈ life, e.before.flows.lookup key ≠ none)
    (hf : s.flows.lookup key = some flow) (hd : flow.dnsTcp = false)
    (hstart : Tracks stream isn [] flow) (hlen : stream.length < 2147483648)
    (hcarry : ∀ e ∈ life, ∀ segment ∈ e.call.segment, segment.key = key →
      Carries stream isn segment) :
    forwarded key life <+: stream ∧ ∀ next, t.flows.lookup key = some next →
      Tracks stream isn (forwarded key life) next := by
  have hall := life_induction (P := fun past r => forwarded key past <+: stream ∧
    ∀ next, r = some next → Tracks stream isn (forwarded key past) next ∧ next.dnsTcp = false)
    h hs hc hlive ?_ ?_
  · exact ⟨hall.1, fun next hn => (hall.2 next hn).1⟩
  · refine ⟨hstart.beginning, fun next hn => ?_⟩
    rw [hf] at hn
    obtain rfl := Option.some.inj hn
    exact ⟨hstart, hd⟩
  · intro past e g hpast hP hran hg
    obtain ⟨ht, hdg⟩ := hP.2 g rfl
    have he : e ∈ life := hpast.subset (by simp)
    have hfwd : forwarded key (past ++ [e]) = forwarded key past ++
        forwardedBytes (g.run config (e.before.deliveries key g e.call)).2 := by
      simp [forwarded, hran.forwarded_eq hg]
    obtain ⟨hb, hn⟩ := FlowRecord.run_tracks config ht hlen hdg fun a b segment d hm =>
      hcarry e he segment (segment_mem_deliveries hm).1 (segment_mem_deliveries hm).2.1
    rw [hfwd]
    refine ⟨hb, fun next hnext => ?_⟩
    rw [hran.lookup hg] at hnext
    exact ⟨hn next hnext, (FlowRecord.run_same config g hnext).dnsTcp.trans hdg⟩

theorem forwarded_in_order {config : EngineConfig} {key : FlowKey} {opening : Event}
    {flow : FlowRecord} {life : List Event} {s : PacketProcessor} {syn : TcpSegment}
    {stream : Bytes} (h : Lifetime config key opening flow life s) (hd : flow.dnsTcp = false)
    (hsyn : opening.call.segment = some syn) (hlen : stream.length < 2147483648)
    (hcarry : ∀ e ∈ life, ∀ segment ∈ e.call.segment, segment.key = key →
      Carries stream syn.sequence segment) :
    forwarded key life <+: stream ∧ ∀ next, s.flows.lookup key = some next →
      next.clientNext = syn.sequence + 1 +
        UInt32.ofNat ((forwarded key life).length + if next.finAccepted then 1 else 0) := by
  have hfin : flow.finAccepted = false := by simp [FlowRecord.finAccepted, (h.connecting hd).1]
  have hstart : Tracks stream syn.sequence [] flow := by
    refine ⟨ List.nil_prefix, ?_, fun hf => ?_⟩
    · simpa [hfin] using h.clientNext hsyn
    · rw [hfin] at hf
      cases hf
  obtain ⟨hb, hn⟩ := life_tracks h.trace h.ran.after_sound h.ran.after_config h.live h.opened hd
    hstart hlen hcarry
  exact ⟨hb, fun next hnext => (hn next hnext).clientNext⟩

open Sample in
def helloCalls : List Call :=
  [.protectedStreamOpened flowId 0, segment 8 serverNext .ackOnly [],
    segment 8 serverNext .ackOnly [104, 105],
    segment 8 serverNext .ackOnly [104, 105],
    .acknowledgeForwarded flowId 2 0, segment 10 serverNext .finAck []]

def helloLife : List Event :=
  eventsOf (eventOf Sample.start Sample.opening).after helloCalls

open Sample in
theorem forwarded_in_order_hello :
    forwarded key helloLife = [104, 105] ∧
      forwarded key helloLife <+: [104, 105] ∧
      ∀ next, (finalOf start (opening :: helloCalls)).flows.lookup key = some next →
        next.clientNext = 8 + UInt32.ofNat
          ((forwarded key helloLife).length + if next.finAccepted then 1 else 0) := by
  have hlife : Lifetime .default key (eventOf start opening) opened
      helloLife (finalOf start (opening :: helloCalls)) :=
    .of_calls new_default (by decide +kernel) (by decide +kernel) (by decide +kernel)
  have hsyn : opening.segment = some synSegment := by decide +kernel
  exact ⟨by decide +kernel, forwarded_in_order hlife rfl hsyn (by decide) (by decide +kernel)⟩

def Event.received (key : FlowKey) (e : Event) : List FlowEvent :=
  (e.before.flows.lookup key).elim [] fun flow => e.before.deliveries key flow e.call

lemma FlowRecord.run_append {config : EngineConfig} {flow next : FlowRecord}
    {past events : List FlowEvent} (h : (flow.run config past).1 = some next) :
    flow.run config (past ++ events) =
      ((next.run config events).1, (flow.run config past).2 ++ (next.run config events).2) := by
  induction past generalizing flow with
  | nil =>
    obtain rfl := Option.some.inj h
    simp
  | cons event past ih =>
    simp only [List.cons_append, run] at h ⊢
    split at h
    · cases h
    · rw [ih h, List.append_assoc]

/-- Whatever happens to other flows, a flow becomes what the events delivered to it make of it, and
what they make it ask for is asked for. -/
theorem flow_isolated {config : EngineConfig} {key : FlowKey} {opening : Event} {flow : FlowRecord}
    {life : List Event} {s : PacketProcessor} (h : Lifetime config key opening flow life s) :
    s.flows.lookup key = (flow.run config (life.flatMap (Event.received key))).1 ∧
      (flow.run config (life.flatMap (Event.received key))).2 ⊆ life.flatMap Event.actions := by
  refine life_induction (P := fun past next =>
    next = (flow.run config (past.flatMap (Event.received key))).1 ∧
      (flow.run config (past.flatMap (Event.received key))).2 ⊆ past.flatMap Event.actions)
    h.trace h.ran.after_sound h.ran.after_config h.live ⟨h.opened, List.nil_subset _⟩ ?_
  rintro past e g - ⟨hg, hpast⟩ hran hf
  have hreceived : e.received key = e.before.deliveries key g e.call := by
    rw [Event.received, hf]
    rfl
  simp only [List.flatMap_append, List.flatMap_singleton, hreceived, FlowRecord.run_append hg.symm]
  refine ⟨hran.lookup hf, List.append_subset.mpr ⟨?_, ?_⟩⟩
  · exact List.subset_append_of_subset_left _ hpast
  · exact List.subset_append_of_subset_right _ (hran.emits hf)

open Sample in
theorem flow_isolated_hello :
    (finalOf start (opening :: helloCalls)).flows.lookup key =
      (opened.run .default (helloLife.flatMap (Event.received key))).1 ∧
    (opened.run .default (helloLife.flatMap (Event.received key))).2 ⊆
      helloLife.flatMap Event.actions :=
  have h : Lifetime .default key (eventOf start opening) opened
      helloLife (finalOf start (opening :: helloCalls)) :=
    .of_calls new_default (by decide +kernel) (by decide +kernel) (by decide +kernel)
  flow_isolated h

end OnionRoute.PacketEngine
