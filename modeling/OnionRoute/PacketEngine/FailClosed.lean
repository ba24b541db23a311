import OnionRoute.PacketEngine.Emission

/-! Nothing leaves unless the path is protected, the route says tunnel and the processor runs. -/

namespace OnionRoute.PacketEngine

open Library PacketProcessor Sample

def EngineAction.usesProtectedPath : EngineAction → Bool
  | .openProtectedStream _ _ _ _ => true
  | .forwardPayload _ _ => true
  | .resolveDns _ _ => true
  | _ => false

variable {config : EngineConfig} {flow : FlowRecord} {s t : PacketProcessor}

namespace FlowRecord

lemma step_uses {event : FlowEvent}
    {a : EngineAction} (ha : a ∈ (flow.step config event).2) (hu : a.usesProtectedPath = true) :
    ∃ pendingDns nextDnsId segment now, event = .segment pendingDns nextDnsId segment now := by
  have hfail : ∀ reason, a ∉ flow.failActions reason := by
    intro reason hm
    simp only [failActions, List.mem_cons, List.not_mem_nil, or_false] at hm
    rcases hm with rfl | rfl | rfl <;> cases hu
  have hstep := step_cases config flow event
  generalize (flow.step config event).1 = next, (flow.step config event).2 = actions at hstep ha
  cases hstep with
  | received | removed => exact ⟨_, _, _, _, rfl⟩
  | refused | unclosed | failed => exact absurd ha (hfail _)
  | reset | opened | acknowledged | finished | sent | closed =>
    obtain rfl := List.mem_singleton.mp ha
    cases hu
  | repeated =>
    simp only [List.mem_cons, List.not_mem_nil, or_false] at ha
    rcases ha with rfl | rfl <;> cases hu
  | known | empty | quiet | postponed => exact absurd ha List.not_mem_nil

end FlowRecord

variable {segment : TcpSegment}

section Own

variable {a : EngineAction}

def PacketEngineInput.Tunnels (input : PacketEngineInput) : Prop :=
  ∃ route, input.route = some route ∧ route.decision.action = .tunnel

lemma processUdp_uses {datagram : UdpDatagram} {connectionState : ClientConnectionState}
    (ha : a ∈ (s.processUdp datagram connectionState).2) (hu : a.usesProtectedPath = true) :
    s.accepting = true ∧ protectedState connectionState = true ∧
      ∀ request key profile gateway, a ≠ .openProtectedStream request key profile gateway := by
  have hblock : ∀ reason, a ∉ (s.block none reason).2 := by
    intro reason hm
    obtain rfl := List.mem_singleton.mp hm
    cases hu
  simp only [processUdp] at ha
  split_ifs at ha with h1 h2 h3 h4
  · exact absurd ha (hblock _)
  · exact absurd ha (hblock _)
  · exact absurd ha (hblock _)
  · obtain rfl := List.mem_singleton.mp ha
    exact ⟨by simpa using h2, by simpa using h3, nofun⟩
  · exact absurd ha (hblock _)
  · exact absurd ha (hblock _)

lemma admission_uses {input : PacketEngineInput} {o : Outcome}
    (h : s.Admission segment input o) (ha : a ∈ o.2) (hu : a.usesProtectedPath = true) :
    s.accepting = true ∧ protectedState input.connectionState = true ∧ input.Tunnels := by
  have hreject : ∀ reason, a ∉ (s.rejectSyn segment reason).2 := by
    intro reason hm
    simp only [rejectSyn, List.mem_cons, List.not_mem_nil, or_false] at hm
    rcases hm with rfl | rfl <;> cases hu
  cases h with
  | ignored => simp at ha
  | unknown | dnsOpened =>
    obtain rfl := List.mem_singleton.mp ha
    cases hu
  | rejected reason => exact absurd ha (hreject reason)
  | full =>
    rcases List.mem_append.mp ha with ha | ha
    · exact absurd ha (hreject _)
    · obtain rfl := List.mem_singleton.mp ha
      cases hu
  | tcpOpened ho hroute htunnel =>
    exact ⟨ho.accepting, ho.protectedPath, _, hroute, htunnel⟩

lemma own_uses {call : Call} (ha : a ∈ s.own call) (hu : a.usesProtectedPath = true) :
    s.accepting = true ∧ ∃ input, call = .process input ∧
      protectedState input.connectionState = true ∧
      ∀ request key profile gateway, a = .openProtectedStream request key profile gateway →
        input.Tunnels := by
  cases call with
  | process input =>
    cases hc : classify input.packet with
    | error e =>
      simp only [own, hc, process, List.mem_cons, List.not_mem_nil, or_false] at ha
      rcases ha with rfl | rfl <;> cases hu
    | ok packet =>
      cases packet with
      | tcp segment =>
        simp only [own, hc] at ha
        split_ifs at ha with hf
        · simp at ha
        · have hnone : s.flows.lookup segment.key = none := by simpa using hf
          obtain ⟨hacc, hp, ht⟩ := admission_uses (processTcp_admission input hnone) ha hu
          exact ⟨hacc, input, rfl, hp, fun _ _ _ _ _ => ht⟩
      | udp datagram =>
        simp only [own, hc, process] at ha
        obtain ⟨hacc, hp, hn⟩ := processUdp_uses ha hu
        exact ⟨hacc, input, rfl, hp, fun r k p g he => absurd he (hn r k p g)⟩
      | _ =>
        simp only [own, hc, process, block, List.mem_singleton] at ha
        subst ha
        cases hu
  | protectedStreamOpened id now | protectedPayload id payload now =>
    simp only [own] at ha
    split_ifs at ha
    · simp at ha
    · obtain rfl := List.mem_singleton.mp ha
      cases hu
  | completeDns queryId wire now =>
    cases hq : s.pendingDns.lookup queryId with
    | none => simp [own, hq] at ha
    | some target =>
      cases target with
      | tcp id => simp [own, hq] at ha
      | udp client resolver =>
        simp only [own, hq, completeDns] at ha
        split_ifs at ha <;> obtain rfl := List.mem_singleton.mp ha <;> cases hu
  | resume now healthy =>
    simp only [own] at ha
    split_ifs at ha
    · obtain rfl := List.mem_singleton.mp ha
      cases hu
    · simp at ha
  | shutdown =>
    obtain rfl := List.mem_singleton.mp ha
    cases hu
  | _ => simp [own] at ha

end Own

lemma Event.Ran.uses {e : Event} (h : e.Ran config) {a : EngineAction}
    (ha : a ∈ e.actions) (hu : a.usesProtectedPath = true) :
    ((∃ key flow, e.before.flows.lookup key = some flow) ∨ e.before.accepting = true) ∧
      ∃ input, e.call = .process input ∧ protectedState input.connectionState = true ∧
      ∀ request key profile gateway, a = .openProtectedStream request key profile gateway →
        input.Tunnels := by
  rcases h.sources ha with ha | ⟨key, flow, hf, ha⟩
  · obtain ⟨hacc, input, hcall, hp, ht⟩ := own_uses ha hu
    exact ⟨.inr hacc, input, hcall, hp, ht⟩
  · obtain ⟨past, event, rest, g, he, _, hg⟩ := flow.mem_run_actions config ha
    obtain ⟨pendingDns, nextDnsId, segment, now, rfl⟩ := FlowRecord.step_uses hg hu
    have hmem : .segment pendingDns nextDnsId segment now ∈ e.before.deliveries key flow e.call := by
      simp [he]
    obtain ⟨_, _, input, hcall, hp⟩ := segment_mem_deliveries hmem
    refine ⟨.inl ⟨key, flow, hf⟩, input, hcall, hp, ?_⟩
    intro request k profile gateway hopen
    subst hopen
    have hemit := g.step_emitted config _ _ hg
    cases hemit

structure Closed (s : PacketProcessor) : Prop where
  accepting : s.accepting = false
  flows : ∀ key, s.flows.lookup key = none
  ids : ∀ id, s.ids.lookup id = none
  pendingDns : ∀ queryId, s.pendingDns.lookup queryId = none

variable {events : List Event}

namespace Closed

lemma tables (h : Closed s) : s.flows = ∅ ∧ s.ids = ∅ ∧ s.pendingDns = ∅ :=
  ⟨Table.eq_empty_iff.mpr h.flows, Table.eq_empty_iff.mpr h.ids, Table.eq_empty_iff.mpr h.pendingDns⟩

lemma rehashed (h : Closed s) (hr : s.Rehashed t) : Closed t :=
  ⟨hr.accepting.trans h.accepting, fun key => (hr.flows_lookup key).trans (h.flows key),
    fun id => (hr.ids_lookup id).trans (h.ids id),
    fun id => (hr.pendingDns_lookup id).trans (h.pendingDns id)⟩

lemma edit (h : Closed s) (he : Edit s t) : Closed t := by
  obtain ⟨hacc, hflows, hids, hdns⟩ := h
  cases he with
  | put hf =>
    rw [hflows] at hf
    cases hf
  | remove key =>
    rw [PacketProcessor.removeFlow, hflows key]
    exact ⟨hacc, hflows, hids, hdns⟩
  | sweep => exact ⟨hacc, fun key => by simp [hflows], hids, hdns⟩
  | ask ht =>
    cases ht with
    | udp ha =>
      rw [hacc] at ha
      cases ha
    | tcp hf =>
      rw [hflows] at hf
      cases hf
  | take queryId =>
    refine ⟨hacc, hflows, hids, fun id => Option.eq_none_iff_forall_ne_some.mpr fun target hq => ?_⟩
    cases (Table.lookup_erase_eq_some hq).2.symm.trans (hdns id)
  | forget => exact ⟨hacc, hflows, hids, fun id => by simp⟩
  | stop => exact ⟨rfl, hflows, hids, hdns⟩
  | sleep => exact ⟨hacc, hflows, hids, hdns⟩

lemma perform (h : Closed s) (call : Call) : Closed (s.perform call).1 := by
  refine perform_invariant (I := Closed) call edit (fun _ ho => ?_) h
  have hacc : s.accepting = true := by cases ho <;> exact Opens.accepting (by assumption)
  rw [h.accepting] at hacc
  cases hacc

lemma trace (ht : Trace Step s events t) (h : Closed s) :
    Closed t ∧ ∀ e ∈ events, Closed e.before := by
  induction ht with
  | nil => exact ⟨h, fun e he => absurd he List.not_mem_nil⟩
  | @snoc t u past last _ hstep ih =>
    obtain ⟨hc, hall⟩ := ih
    have hb := hc.rehashed hstep.1
    have ha := hb.perform last.call
    rw [hstep.2.1] at ha
    refine ⟨hstep.2.2 ▸ ha, fun e he => ?_⟩
    · rcases List.mem_append.mp he with he | he
      · exact hall e he
      · rw [List.mem_singleton.mp he]
        exact hb

end Closed

section Shutdown

lemma shutdown_closes (hs : s.Sound) (hn : s.Named) : Closed (s.perform .shutdown).1 := by
  have ht : Sound { s with accepting := false, pendingDns := ∅ } :=
    hs.of_tables (fun _ => rfl) fun _ => rfl
  have hframe := Frame.edits ht (failEach_edits _ (s.allIds .shutdown))
  have hflows : ∀ key, (s.perform .shutdown).1.flows.lookup key = none := by
    intro key
    cases hf : s.flows.lookup key with
    | none =>
      exact failEach_lookup_none (s := { s with accepting := false, pendingDns := ∅ }) hf _
    | some flow =>
      rw [(shutdown_explained hs).lookup hf]
      have hid := hn key flow hf
      have hmem : flow.flowId ∈ s.ids.keys := Table.mem_keys_iff.mpr ⟨key, hid⟩
      obtain hd | ⟨reason, hd, _⟩ := s.failuresOf_cases key flow (s.allIds .shutdown)
      · -- the identifier is in the table, so the sweep reaches the record
        exfalso
        simp only [failuresOf, hid, if_true, Option.toList_eq_nil_iff, Option.map_eq_none_iff,
          List.find?_eq_none, allIds, List.mem_map] at hd
        exact hd (flow.flowId, .shutdown) ⟨flow.flowId, hmem, rfl⟩ (by simp)
      · have hdel : s.deliveries key flow .shutdown = [.failed reason] := hd
        rw [hdel]
        rfl
  refine ⟨?_, hflows, fun id => ?_, fun queryId => ?_⟩
  · cases hacc : (s.perform .shutdown).1.accepting with
    | false => rfl
    | true => exact absurd (hframe.accepting hacc) Bool.false_ne_true
  · by_contra hi
    obtain ⟨key, hi⟩ := Option.ne_none_iff_exists'.mp hi
    obtain ⟨flow, hf, _⟩ := (hs.perform .shutdown).ids hi
    rw [hflows] at hf
    cases hf
  · by_contra hq
    obtain ⟨target, hq⟩ := Option.ne_none_iff_exists'.mp hq
    refine failEach_invariant (I := fun u => u.pendingDns.lookup queryId ≠ some target)
      (fun key hu h => hu (removeFlow_pendingDns h)) ?_ _ hq
    simp

def Event.Fresh (e : Event) : Prop :=
  ∀ key flow, e.before.Opening key e.call flow →
    ∀ k f, e.before.flows.lookup k = some f → f.flowId ≠ flow.flowId

lemma PacketProcessor.Named.openFlow (h : s.Named)
    (hfresh : ∀ k f, s.flows.lookup k = some f → f.flowId ≠ flow.flowId) :
    (s.openFlow flow).Named := by
  intro key f hf
  rw [openFlow_lookup] at hf
  split_ifs at hf with hk
  · obtain rfl := Option.some.inj hf
    rw [hk]
    exact AList.lookup_insert s.ids
  · exact (Table.lookup_insert_of_ne s.ids (hfresh key f hf) flow.key).trans (h key f hf)

lemma PacketProcessor.Named.rehashed (h : s.Named) (hr : s.Rehashed t) : t.Named := by
  intro key flow hf
  rw [hr.ids_lookup]
  exact h key flow (by rw [← hr.flows_lookup, hf])

lemma PacketProcessor.Named.perform (h : s.Named) (hs : s.Sound) (call : Call)
    (hfresh : ∀ key flow, s.Opening key call flow →
      ∀ k f, s.flows.lookup k = some f → f.flowId ≠ flow.flowId) : (s.perform call).1.Named := by
  obtain hF | ⟨key, flow, _, ho, he⟩ := perform_frame hs call
  · exact hF.named h
  · rw [he]
    exact h.openFlow (hfresh key flow ho)

lemma Run.named (h : Run config events s) (hfresh : ∀ e ∈ events, e.Fresh) : s.Named := by
  obtain ⟨s₀, hnew, ht⟩ := h
  obtain ⟨hs, hc, hempty⟩ := sound_new hnew
  induction ht with
  | nil =>
    intro key flow hf
    rw [hempty] at hf
    cases hf
  | @snoc t u past last ht hstep ih =>
    have hb := (ih fun e he => hfresh e (List.mem_append_left _ he)).rehashed hstep.1
    have hran := hstep.ran (trace_ran ht hs hc).1 (trace_ran ht hs hc).2.1
    have hn := hb.perform hran.sound last.call (hfresh last (by simp))
    rw [hstep.2.1] at hn
    exact hstep.2.2 ▸ hn

end Shutdown

def ClosedAfterShutdown (events : List Event) (s : PacketProcessor) : Prop :=
  ∀ history e later, events = history ++ e :: later → e.call = .shutdown →
    (∀ e' ∈ later, ∀ a ∈ e'.actions, a.usesProtectedPath = false) ∧
      s.flows = ∅ ∧ s.ids = ∅ ∧ s.pendingDns = ∅

def BlockedUnlessProtected (events : List Event) : Prop :=
  ∀ e ∈ events, ∀ input, e.call = .process input →
    protectedState input.connectionState = false → ∀ a ∈ e.actions, a.usesProtectedPath = false

def OpenedOnlyForTunnel (events : List Event) : Prop :=
  ∀ e ∈ events, ∀ request key profile gateway,
    .openProtectedStream request key profile gateway ∈ e.actions →
      ∃ input, e.call = .process input ∧ input.Tunnels

lemma closedAfterShutdown (h : Run config events s) (hfresh : ∀ e ∈ events, e.Fresh) :
    ClosedAfterShutdown events s := by
  rintro history e later rfl hcall
  obtain ⟨he, htrace⟩ := h.after
  obtain ⟨s₀, hnew, ht⟩ := h
  obtain ⟨t, hpast, hrest⟩ := ht.split
  obtain ⟨u, hstep, _⟩ := hrest.cons_inv
  have hnamed : e.before.Named :=
    (Run.named ⟨s₀, hnew, hpast⟩ fun e' he' => hfresh e' (by simp [he'])).rehashed hstep.1
  have hclosed : Closed e.after := by
    rw [he.after_eq, hcall]
    exact shutdown_closes he.sound hnamed
  obtain ⟨hend, hall⟩ := hclosed.trace htrace
  refine ⟨fun e' he' a ha => ?_, hend.tables⟩
  have hran := (trace_ran htrace he.after_sound he.after_config).2.2 e' he'
  have hb := hall e' he'
  by_contra hu
  obtain ⟨⟨key, flow, hf⟩ | hacc, _⟩ := hran.uses ha (by simpa using hu)
  · rw [hb.flows] at hf
    cases hf
  · rw [hb.accepting] at hacc
    cases hacc

theorem fail_closed {config : EngineConfig} {events : List Event} {s : PacketProcessor}
    (h : Run config events s) :
    BlockedUnlessProtected events ∧ OpenedOnlyForTunnel events ∧
      ((∀ e ∈ events, e.Fresh) → ClosedAfterShutdown events s) := by
  refine ⟨fun e he input hcall hp a ha => ?_, fun e he request key profile gateway ha => ?_,
    closedAfterShutdown h⟩
  · by_contra hu
    obtain ⟨_, input', hcall', hp', _⟩ := (h.ran.2.2 e he).uses ha (by simpa using hu)
    rw [hcall] at hcall'
    obtain rfl := Call.process.inj hcall'
    rw [hp] at hp'
    cases hp'
  · obtain ⟨_, input, hcall, _, ht⟩ := (h.ran.2.2 e he).uses ha rfl
    exact ⟨input, hcall, ht request key profile gateway rfl⟩

open Sample in
theorem fail_closed_after_opening :
    ClosedAfterShutdown (eventsOf start [opening, .shutdown])
      (finalOf start [opening, .shutdown]) := by
  refine (fail_closed (run_eventsOf new_default [opening, .shutdown])).2.2 ?_
  intro e he
  simp only [eventsOf, List.mem_cons, List.not_mem_nil, or_false] at he
  rcases he with rfl | rfl
  · intro key flow _ k f hf
    exact absurd hf (by simp [eventOf, start])
  · intro key flow ho
    cases ho

/-! An identifier comes round again after 2^64 - 1 flows, while a flow still carries it. -/

section Wrap

lemma openFlow_removeFlow (hf : s.flows.lookup flow.key = none)
    (hi : s.ids.lookup flow.flowId = none) (hp : s.pendingDns = ∅) :
    (s.openFlow flow).removeFlow flow.key = { s with nextFlowId := max (s.nextFlowId + 1) 1 } := by
  have hl : (s.openFlow flow).flows.lookup flow.key = some flow := AList.lookup_insert s.flows
  have hflows : (s.openFlow flow).flows.erase flow.key = s.flows := Table.erase_insert hf flow
  have hids : (s.openFlow flow).ids.erase flow.flowId = s.ids := Table.erase_insert hi flow.key
  have hdns : (s.openFlow flow).pendingDns.retain
      (fun _ target => target ≠ .tcp flow.flowId) = s.pendingDns := by
    rw [show (s.openFlow flow).pendingDns = ∅ from hp, hp]
    rfl
  simp only [removeFlow, hl, hflows, hids, hdns]
  rfl

lemma processTcp_opens {input : PacketEngineInput} {route : ProtectedRoute}
    (hf : s.flows.lookup segment.key = none) (ho : s.Opens segment input)
    (hfin : segment.flags.fin = false) (hpay : segment.payload = [])
    (hroute : input.route = some route) (htunnel : route.decision.action = .tunnel)
    (hport : segment.destinationPort ≠ 53) :
    (s.processTcp segment input).1 =
      s.openFlow (tcpFlow s.config ⟨s.nextFlowId⟩ segment.key segment input.platform route) := by
  have hroom := not_le.mpr ho.room
  simp only [processTcp, openTcp, hf, hfin, hpay, hroute, htunnel, hport, hroom, ho.accepting,
    ho.protectedPath, ho.syn, ho.ack, ho.rst, List.isEmpty_nil, Bool.not_true, Bool.and_false,
    Bool.false_eq_true, Bool.or_self, if_false]
  rfl

lemma processTcp_resets (input : PacketEngineInput)
    (hf : s.flows.lookup segment.key = some flow) (hs : segment.flags.syn = false)
    (hr : segment.flags.rst = true) :
    (s.processTcp segment input).1 = s.removeFlow segment.key := by
  simp [processTcp, resetByKey, hs, hr, hf]

namespace Sample

def keyAt (port : UInt16) : FlowKey :=
  ⟨⟨source.address, port⟩, destination⟩

def segmentAt (port : UInt16) (sequence : UInt32) (flags : TcpFlags) : TcpSegment :=
  ⟨source.address, destination.address, port, destination.port, sequence, 0, 1024, flags, []⟩

def rst : TcpFlags := ⟨false, false, true, false, false⟩

def churn : List Call :=
  [.process (input (packetOn (keyAt 40001) 7 0 syn [])),
    .process (input (packetOn (keyAt 40001) 8 0 rst []))]

def holding (n : UInt64) : PacketProcessor :=
  { start.openFlow opened with nextFlowId := n }

lemma perform_syn {port : UInt16}
    (hc : classify (packetOn (keyAt port) 7 0 syn []) = .ok (.tcp (segmentAt port 7 syn)))
    (hf : s.flows.lookup (keyAt port) = none) (ha : s.accepting = true)
    (hroom : s.flows.size < s.config.maxFlows) :
    (s.perform (.process (input (packetOn (keyAt port) 7 0 syn [])))).1 =
      s.openFlow (tcpFlow s.config ⟨s.nextFlowId⟩ (keyAt port) (segmentAt port 7 syn) ⟨none, 0⟩
        route) := by
  have hkey : s.flows.lookup (segmentAt port 7 syn).key = none := hf
  have hp : s.process (input (packetOn (keyAt port) 7 0 syn [])) = s.processTcp
      (segmentAt port 7 syn) (input (packetOn (keyAt port) 7 0 syn [])) := process_of_tcp hc
  rw [perform, hp]
  have hport : destination.port ≠ 53 := by decide
  exact processTcp_opens hkey ⟨ha, rfl, hroom, rfl, rfl, rfl⟩ rfl rfl rfl rfl hport

lemma finalOf_opening : finalOf start [opening] = holding 2 := by
  have hc : classify (packetOn (keyAt 40000) 7 0 syn []) = .ok (.tcp (segmentAt 40000 7 syn)) := by
    decide +kernel
  exact perform_syn (s := start) hc (by decide +kernel) rfl (by decide)

lemma finalOf_churn {n : UInt64} (hn : n ≠ 1) :
    finalOf (holding n) churn = holding (max (n + 1) 1) := by
  have hc : classify (packetOn (keyAt 40001) 7 0 syn []) = .ok (.tcp (segmentAt 40001 7 syn)) := by
    decide +kernel
  have hr : classify (packetOn (keyAt 40001) 8 0 rst []) = .ok (.tcp (segmentAt 40001 8 rst)) := by
    decide +kernel
  have hfree : (start.openFlow opened).flows.lookup (keyAt 40001) = none := by decide +kernel
  have hids : (start.openFlow opened).ids.lookup ⟨n⟩ = none := by
    refine (Table.lookup_insert_of_ne start.ids ?_ key).trans (by simp [start])
    intro he
    exact hn (FlowId.mk.inj he)
  let flow := tcpFlow .default ⟨n⟩ (keyAt 40001) (segmentAt 40001 7 syn) ⟨none, 0⟩ route
  have hroom : (start.openFlow opened).flows.size < EngineConfig.default.maxFlows := by
    decide +kernel
  have hopen : ((holding n).perform (.process (input (packetOn (keyAt 40001) 7 0 syn [])))).1 =
      (holding n).openFlow flow := perform_syn hc hfree rfl hroom
  have hreset : (((holding n).openFlow flow).perform
      (.process (input (packetOn (keyAt 40001) 8 0 rst [])))).1 =
      ((holding n).openFlow flow).removeFlow flow.key := by
    have hp : ((holding n).openFlow flow).process (input (packetOn (keyAt 40001) 8 0 rst [])) =
        ((holding n).openFlow flow).processTcp (segmentAt 40001 8 rst)
          (input (packetOn (keyAt 40001) 8 0 rst [])) := process_of_tcp hr
    have hlive : ((holding n).openFlow flow).flows.lookup (segmentAt 40001 8 rst).key = some flow :=
      AList.lookup_insert (holding n).flows
    rw [perform, hp]
    exact processTcp_resets _ hlive rfl rfl
  simp only [finalOf, churn, List.foldl_cons, List.foldl_nil, hopen, hreset]
  exact openFlow_removeFlow hfree hids rfl

lemma finalOf_churning (k : ℕ) (n : UInt64) (hn : 2 ≤ n.toNat)
    (hk : n.toNat + k < 18446744073709551616) :
    ∃ calls, finalOf (holding n) calls = holding (n + UInt64.ofNat k) := by
  induction k generalizing n with
  | zero => exact ⟨[], by simp [finalOf]⟩
  | succ k ih =>
    have h1 : (n + 1).toNat = n.toNat + 1 := by
      rw [UInt64.toNat_add]
      exact Nat.mod_eq_of_lt (by simp; omega)
    have hmax : max (n + 1) 1 = n + 1 := by
      refine if_neg (UInt64.not_le.mpr ?_)
      rw [UInt64.lt_iff_toNat_lt, h1]
      exact Nat.lt_add_one_of_le (Nat.le_of_succ_le hn)
    have hne : n ≠ 1 := by
      rintro rfl
      simp at hn
    obtain ⟨calls, hcalls⟩ := ih (n + 1) (by omega) (by omega)
    refine ⟨churn ++ calls, ?_⟩
    rw [finalOf_append, finalOf_churn hne, hmax, hcalls, UInt64.add_assoc]
    congr 2
    rw [UInt64.ofNat_add, UInt64.add_comm]
    rfl

lemma reaches_holding_one : ∃ calls, finalOf start calls = holding 1 := by
  obtain ⟨calls, hcalls⟩ := finalOf_churning 18446744073709551613 2 (by decide) (by decide)
  refine ⟨[opening] ++ calls ++ churn, ?_⟩
  rw [finalOf_append, finalOf_append, finalOf_opening, hcalls]
  exact finalOf_churn (by decide)

def reissue : Call :=
  .process (input (packetOn (keyAt 40002) 7 0 syn []))

end Sample

end Wrap

theorem shutdown_leaves_flow :
    ¬ ∀ (config : EngineConfig) (events : List Event) (s : PacketProcessor), Run config events s →
      BlockedUnlessProtected events ∧ OpenedOnlyForTunnel events ∧ ClosedAfterShutdown events s := by
  intro hall
  obtain ⟨calls, hcalls⟩ := reaches_holding_one
  have hrun := run_eventsOf new_default (calls ++ [reissue, .shutdown])
  obtain ⟨_, _, hclosed⟩ := hall _ _ _ hrun
  rw [eventsOf_append, finalOf_append, hcalls] at hclosed
  obtain ⟨_, hflows, _⟩ := hclosed
    (eventsOf start calls ++ [eventOf (holding 1) reissue])
    (eventOf (eventOf (holding 1) reissue).after .shutdown) [] (by simp [eventsOf]) rfl
  have hleft : (finalOf (holding 1) [reissue, .shutdown]).flows.size ≠ 0 := by
    decide +kernel
  rw [hflows] at hleft
  exact hleft rfl

end OnionRoute.PacketEngine
