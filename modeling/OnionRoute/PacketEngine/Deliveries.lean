import OnionRoute.PacketEngine.Projection

/-! Every call of the processor is explained by what it delivers to the live flows. -/

namespace OnionRoute.PacketEngine

open Library FlowRecord

variable {key : FlowKey} {call : Call} {event : FlowEvent}

namespace PacketProcessor

variable {s : PacketProcessor}

section Callbacks

variable {id : FlowId} {k : FlowKey} {g : FlowRecord}

lemma callback_eq (h : s.Sound) (ho : s.flowOf id = some (k, g)) (event : FlowEvent)
    (key : FlowKey) : s.callback key id event = if key = k then [event] else [] := by
  unfold callback
  rw [(h.flowOf ho).1]
  by_cases hk : key = k
  · rw [if_pos hk, if_pos (by rw [hk])]
  · rw [if_neg hk, if_neg]
    exact fun he => hk (Option.some.inj he).symm

lemma callback_of_none (h : s.Sound) (ho : s.flowOf id = none) (event : FlowEvent)
    (key : FlowKey) : s.callback key id event = [] := by
  unfold callback
  rw [h.flowOf_none ho]
  exact if_neg (Option.some_ne_none key).symm

lemma putFlow_lookup_of (hk : s.flows.lookup k = some g) (next : FlowRecord) (key : FlowKey) :
    (s.putFlow k next).flows.lookup key = if key = k then some next else s.flows.lookup key := by
  rw [putFlow_lookup]
  split_ifs with he
  · rw [he, hk]
    rfl
  · rfl

lemma explained_of_unknown (hd : ∀ key, s.directed key call = [])
    (hn : s.failures call = []) (h1 : (s.perform call).1.flows = s.flows)
    (h2 : (s.perform call).2 = s.own call) : s.Explained call := by
  refine explained_of_idle (fun key flow _ => ?_) (fun key flow hf => ?_) ?_
  · rw [deliveries, hd, hn]
    simp [failuresOf]
  · rw [h1, hf]
  · rw [h2]
    exact List.Subset.refl _

inductive Carried (s : PacketProcessor) (id : FlowId) (k : FlowKey) (g : FlowRecord) :
    Outcome → Option FlowRecord × List EngineAction → Prop
  | kept {actions : List EngineAction} : Carried s id k g (s, actions) (some g, actions)
  | put {next : FlowRecord} {actions : List EngineAction} (hs : FlowRecord.Same g next) :
      Carried s id k g (s.putFlow k next, actions) (some next, actions)
  | removed {next : FlowRecord} {actions : List EngineAction} (hs : FlowRecord.Same g next) :
      Carried s id k g ((s.putFlow k next).removeFlow k, actions) (none, actions)
  | failed (reason : BlockReason) :
      Carried s id k g (s.failFlow id reason) (none, g.failActions reason)

variable {step : Option FlowRecord × List EngineAction}

lemma Carried.lookup (h : s.Sound) (ho : s.flowOf id = some (k, g)) {o : Outcome}
    (hc : s.Carried id k g o step) (key : FlowKey) :
    o.1.flows.lookup key = if key = k then step.1 else s.flows.lookup key := by
  obtain ⟨hi, hk, _⟩ := h.flowOf ho
  cases hc with
  | kept =>
    split_ifs with he
    · rw [he, hk]
    · rfl
  | put => exact putFlow_lookup_of hk _ key
  | removed =>
    rw [removeFlow_lookup, putFlow_lookup_of hk]
    split_ifs <;> rfl
  | failed =>
    rw [failFlow_of_lookup h hi hk]
    exact s.removeFlow_lookup k key

lemma Carried.actions (h : s.Sound) (ho : s.flowOf id = some (k, g)) {o : Outcome}
    (hc : s.Carried id k g o step) : o.2 = step.2 := by
  cases hc with
  | failed => rw [failFlow_of_lookup h (h.flowOf ho).1 (h.flowOf ho).2.1]
  | _ => rfl

inductive Answered (s : PacketProcessor) (id : FlowId) (event : FlowEvent)
    (unknown : List EngineAction) : Outcome → Prop
  | unknown (ho : s.flowOf id = none) : Answered s id event unknown (s, unknown)
  | known {k : FlowKey} {g : FlowRecord} {o : Outcome} (ho : s.flowOf id = some (k, g))
      (hc : s.Carried id k g o (g.step s.config event)) : Answered s id event unknown o

lemma explained_of_answered (h : s.Sound) {t : PacketProcessor} {unknown : List EngineAction}
    (hf : t.flows = s.flows) (hi : t.ids = s.ids) (hconfig : t.config = s.config)
    (hd : ∀ key, s.directed key call = s.callback key id event) (hn : s.failures call = [])
    (hown : s.ids.lookup id = none → unknown = s.own call)
    (ha : t.Answered id event unknown (s.perform call)) : s.Explained call := by
  have ht : t.Sound := h.of_tables (fun _ => by rw [hf]) fun _ => by rw [hi]
  have hflow : s.flowOf id = t.flowOf id := by simp only [flowOf, hf, hi]
  generalize hp : s.perform call = o at ha
  cases ha with
  | unknown ho =>
    rw [← hflow] at ho
    refine explained_of_unknown (fun key => (hd key).trans (callback_of_none h ho _ key)) hn ?_ ?_
    · rw [hp, hf]
    · rw [hp]
      exact hown (h.flowOf_none ho)
  | known ho hc =>
    have ho' := hflow.trans ho
    refine explained_of_event event (h.flowOf ho').2.1
      (fun key => (hd key).trans (callback_eq h ho' _ key)) hn (fun key => ?_) ?_
    · rw [hp, hc.lookup ht ho, hconfig, hf]
    · rw [hp, hc.actions ht ho, hconfig]

section

variable (s : PacketProcessor) (id : FlowId)

lemma protectedStreamOpened_answered (now : ℕ) :
    s.Answered id (.opened now) [.recordDiagnostic .unknownFlow (some id)]
      (s.protectedStreamOpened id now) := by
  unfold protectedStreamOpened
  split
  · exact .unknown ‹_›
  · exact .known ‹_› (.put (opened_same s.config _ now))

lemma acknowledgeForwarded_answered (bytes now : ℕ) :
    s.Answered id (.acknowledged bytes now) [] (s.acknowledgeForwarded id bytes now) := by
  unfold acknowledgeForwarded
  split
  · exact .unknown ‹_›
  · refine .known ‹_› ?_
    simp only [step]
    split_ifs
    · exact .removed ⟨rfl, rfl, rfl, rfl⟩
    · exact .put ⟨rfl, rfl, rfl, rfl⟩

lemma protectedPayload_answered (payload : Bytes) (now : ℕ) :
    s.Answered id (.payload payload now) [.recordDiagnostic .unknownFlow (some id)]
      (s.protectedPayload id payload now) := by
  unfold protectedPayload
  split
  · exact .unknown ‹_›
  · refine .known ‹_› ?_
    simp only [step]
    split_ifs
    · exact .kept
    · exact .failed _
    · exact .put ⟨rfl, rfl, rfl, rfl⟩

lemma protectedStreamClosed_answered (now : ℕ) :
    s.Answered id (.fin now) [] (s.protectedStreamClosed id now) := by
  unfold protectedStreamClosed
  split
  · exact .unknown ‹_›
  · refine .known ‹_› ?_
    simp only [step]
    split_ifs
    · exact .failed _
    · exact .put ⟨rfl, rfl, rfl, rfl⟩

end

lemma completeDns_answered {queryId : UInt64} {wire : Bytes}
    (hq : s.pendingDns.lookup queryId = some (.tcp id)) (hv : validAnswer wire = true) (now : ℕ) :
    Answered { s with pendingDns := s.pendingDns.erase queryId } id (.payload (framed wire) now) []
      (s.completeDns queryId wire now) := by
  have hbad : ¬ (wire.isEmpty = true ∨ wire.length > maxDnsMessageBytes) := by
    simpa [validAnswer] using hv
  have hne : (framed wire).isEmpty = false := by simp [framed, beBytes16]
  simp only [completeDns, hq, if_neg hbad]
  split
  · exact .unknown ‹_›
  · refine .known ‹_› ?_
    simp only [step, hne, Bool.false_eq_true, if_false]
    split_ifs
    · exact .failed _
    · exact .put ⟨rfl, rfl, rfl, rfl⟩

lemma completeDns_explained (h : s.Sound) (queryId : UInt64) (wire : Bytes) (now : ℕ) :
    s.Explained (.completeDns queryId wire now) := by
  cases hq : s.pendingDns.lookup queryId with
  | none =>
    refine explained_of_unknown (fun key => ?_) ?_ ?_ ?_ <;>
      simp [perform, completeDns, directed, failures, own, hq]
  | some target =>
    cases target with
    | udp client resolver =>
      refine explained_of_unknown (fun key => ?_) ?_ ?_ ?_
      · simp [directed, hq]
      · simp [failures, hq]
      · simp only [perform, completeDns, hq]
        split_ifs <;> rfl
      · simp [perform, own, hq]
    | tcp id =>
      by_cases hv : validAnswer wire = true
      · have ha := completeDns_answered hq hv now
        refine explained_of_answered h ?_ ?_ ?_ (fun key => ?_) ?_ (fun _ => ?_) ha
        · rfl
        · rfl
        · rfl
        · simp [directed, hq, hv]
        · simp [failures, hq, hv]
        · simp [own, hq]
      · have hbad : wire.isEmpty = true ∨ wire.length > maxDnsMessageBytes := by
          simpa [validAnswer, -List.isEmpty_iff, or_iff_not_imp_left] using hv
        refine explained_of_failEach (t := { s with pendingDns := s.pendingDns.erase queryId }) h rfl
          (fun _ => rfl) (fun _ => rfl) (fun key => ?_) ?_ ?_
        · simp [directed, hq, hv]
        · simp only [perform, completeDns, hq, if_pos hbad, failures, if_neg hv, failEach]
        · simp only [perform, completeDns, hq, if_pos hbad, failures, if_neg hv, failEach, own,
            List.nil_append, List.append_nil]

end Callbacks

lemma failFlow_explained (h : s.Sound) (id : FlowId) (reason : BlockReason) :
    s.Explained (.failFlow id reason) := by
  refine explained_of_failEach (t := s) h rfl (fun _ => rfl) (fun _ => rfl) (fun _ => rfl) rfl ?_
  simp [perform, failures, failEach, own]

lemma suspend_explained (s : PacketProcessor) (now : ℕ) : s.Explained (.suspend now) :=
  explained_of_unknown (fun _ => rfl) rfl rfl rfl

lemma shutdown_explained (h : s.Sound) : s.Explained .shutdown :=
  explained_of_failEach (t := { s with accepting := false, pendingDns := ∅ }) h rfl (fun _ => rfl)
    (fun _ => rfl) (fun _ => rfl) rfl rfl

lemma failAll_explained (h : s.Sound) (reason : BlockReason) : s.Explained (.failAll reason) :=
  explained_of_failEach (t := { s with pendingDns := ∅ }) h rfl (fun _ => rfl) (fun _ => rfl)
    (fun _ => rfl) rfl rfl

lemma resume_explained (h : s.Sound) (now : ℕ) (healthy : Bool) :
    s.Explained (.resume now healthy) := by
  cases hs : s.suspendedAtMs with
  | none =>
    refine explained_of_unknown (fun key => ?_) ?_ ?_ ?_ <;>
      simp [perform, resume, directed, failures, own, hs]
  | some suspendedAt =>
    cases healthy with
    | false =>
      refine explained_of_failEach (t := { s with suspendedAtMs := none }) h rfl (fun _ => rfl)
        (fun _ => rfl) (fun key => ?_) ?_ ?_
      · simp [directed, hs]
      · simp only [perform, resume, hs, failures]
        rfl
      · simp only [perform, resume, hs, failures, own]
        rfl
    | true =>
      have hdel : ∀ key flow, s.deliveries key flow (.resume now true) =
          [.postponed (now - suspendedAt)] := by
        intro key flow
        simp [deliveries, directed, failures, failuresOf, hs]
      refine ⟨fun {key flow} hf => ?_, fun {key flow} hf => ?_, fun {a} ha => ?_⟩
      · rw [hdel, run_single]
        simp [perform, resume, hs, hf, step]
      · rw [hdel, run_single]
        exact List.nil_subset _
      · simp [perform, resume, hs] at ha

lemma tick_explained (h : s.Sound) (now : ℕ) : s.Explained (.tick now) := by
  by_cases hs : s.suspendedAtMs.isSome = true
  · refine explained_of_unknown (fun key => ?_) ?_ ?_ ?_ <;>
      simp [perform, tick, directed, failures, own, hs]
  · let swept := { s with flows := s.flows.mapValues (afterTick s.config now) }
    have hsame : ∀ flow, FlowRecord.Same flow (flow.afterTick s.config now) := fun flow =>
      flow.afterTick_same s.config now
    obtain ⟨hrec, hsource⟩ := failEach_projects (h.mapFlows hsame) (s.expired now)
    have hf : s.failures (.tick now) = s.expired now := by simp [failures, hs]
    have hp : s.perform (.tick now) = ((swept.failEach (s.expired now)).1,
        s.flows.values.flatMap (tickActions s.config now) ++
          (swept.failEach (s.expired now)).2) := by
      simp only [perform, tick, if_neg hs]
      rfl
    -- the sweep comes first, and it moves no identifier
    have hrun : ∀ (key : FlowKey) (flow : FlowRecord),
        flow.run s.config (s.deliveries key flow (.tick now)) =
        (((flow.afterTick s.config now).run s.config
            (swept.failuresOf key (flow.afterTick s.config now) (s.expired now))).1,
          flow.tickActions s.config now ++ ((flow.afterTick s.config now).run s.config
            (swept.failuresOf key (flow.afterTick s.config now) (s.expired now))).2) := by
      intro key flow
      have hdel : s.deliveries key flow (.tick now) = .tick now ::
          swept.failuresOf key (flow.afterTick s.config now) (s.expired now) := by
        rw [deliveries, hf, directed, if_neg hs, List.singleton_append]
        exact congrArg _ (failuresOf_congr (t := s) (hsame flow).flowId.symm rfl)
      rw [hdel]
      rfl
    have hl : ∀ {key flow}, s.flows.lookup key = some flow →
        swept.flows.lookup key = some (flow.afterTick s.config now) := by
      intro key flow hk
      simp [swept, hk]
    refine ⟨fun {key flow} hk => ?_, fun {key flow} hk => ?_, fun {a} ha => ?_⟩
    · rw [hp, hrun]
      exact (hrec (hl hk)).1
    · rw [hp, hrun]
      refine List.append_subset.mpr ⟨fun a ha => List.mem_append_left _ ?_, fun a ha =>
        List.mem_append_right _ ((hrec (hl hk)).2 ha)⟩
      exact List.mem_flatMap.mpr ⟨flow, Table.mem_values_iff.mpr ⟨key, hk⟩, ha⟩
    · rw [hp] at ha
      right
      rcases List.mem_append.mp ha with ha | ha
      · obtain ⟨flow, hm, ha⟩ := List.mem_flatMap.mp ha
        obtain ⟨key, hk⟩ := Table.mem_values_iff.mp hm
        exact ⟨key, flow, hk, by rw [hrun]; exact List.mem_append_left _ ha⟩
      · obtain ⟨key, g, hk, ha⟩ := hsource ha
        simp only [Table.lookup_mapValues, Option.map_eq_some_iff] at hk
        obtain ⟨flow, hk, rfl⟩ := hk
        exact ⟨key, flow, hk, by rw [hrun]; exact List.mem_append_right _ ha⟩

structure Opens (s : PacketProcessor) (segment : TcpSegment) (input : PacketEngineInput) :
    Prop where
  accepting : s.accepting = true
  protectedPath : protectedState input.connectionState = true
  room : s.flows.size < s.config.maxFlows
  syn : segment.flags.syn = true
  ack : segment.flags.ack = false
  rst : segment.flags.rst = false

def openFlow (s : PacketProcessor) (flow : FlowRecord) : PacketProcessor :=
  s.allocateFlowId.1.insertFlow flow

inductive Admission (s : PacketProcessor) (segment : TcpSegment) (input : PacketEngineInput) :
    Outcome → Prop
  | ignored : Admission s segment input (s, [])
  | unknown : Admission s segment input (s, [.recordDiagnostic .unknownFlow none])
  | rejected (reason : BlockReason) : Admission s segment input (s.rejectSyn segment reason)
  | full : Admission s segment input
      (s, (s.rejectSyn segment .backpressure).2 ++ [.recordDiagnostic .flowLimit none])
  | dnsOpened (h : s.Opens segment input) (port : segment.destinationPort = 53) :
      Admission s segment input
        (s.openFlow (dnsFlow s.config ⟨s.nextFlowId⟩ segment.key segment input.platform),
          [.sendSyntheticResponse (responseFromValues
            (dnsFlow s.config ⟨s.nextFlowId⟩ segment.key segment input.platform)
            (initialSequence ⟨s.nextFlowId⟩) (segment.sequence + 1) .synAck
            s.config.receiveWindow [])])
  | tcpOpened (h : s.Opens segment input) {route : ProtectedRoute}
      (hroute : input.route = some route) (htunnel : route.decision.action = .tunnel)
      (port : segment.destinationPort ≠ 53) (request : TcpFlowRequest) :
      Admission s segment input
        (s.openFlow (tcpFlow s.config ⟨s.nextFlowId⟩ segment.key segment input.platform route),
          [.openProtectedStream request route.isolationKey route.anonymityProfile route.gatewayId])

variable {segment : TcpSegment} {input : PacketEngineInput}

lemma openDnsTcp_admission (hs : segment.flags.syn = true) (ha : segment.flags.ack = false)
    (hr : segment.flags.rst = false) (hp : segment.destinationPort = 53) :
    s.Admission segment input
      (s.openDnsTcp segment.key segment input.platform input.connectionState) := by
  unfold openDnsTcp
  split_ifs with h1 h2 h3
  · exact .rejected _
  · exact .rejected _
  · exact .rejected _
  · exact .dnsOpened ⟨by simpa using h1, by simpa using h2, by simpa using h3, hs, ha, hr⟩ hp

lemma openTcp_admission (hs : segment.flags.syn = true) (ha : segment.flags.ack = false)
    (hr : segment.flags.rst = false) (hp : segment.destinationPort ≠ 53) :
    s.Admission segment input (s.openTcp segment.key segment input) := by
  unfold openTcp
  by_cases h1 : (!s.accepting) = true
  · rw [if_pos h1]
    exact .rejected _
  by_cases h2 : (!protectedState input.connectionState) = true
  · rw [if_neg h1, if_pos h2]
    exact .rejected _
  rw [if_neg h1, if_neg h2]
  cases hroute : input.route with
  | none => exact .rejected _
  | some route =>
    cases hd : route.decision.action with
    | block | bypass => simpa only [hd] using Admission.rejected _
    | tunnel =>
      simp only [hd]
      split_ifs with h3
      · exact .full
      · exact .tcpOpened ⟨by simpa using h1, by simpa using h2, by simpa using h3, hs, ha, hr⟩
          hroute hd hp _

lemma processTcp_admission (input : PacketEngineInput) (hf : s.flows.lookup segment.key = none) :
    s.Admission segment input (s.processTcp segment input) := by
  simp only [processTcp, hf, resetByKey]
  split_ifs with h1 h2 h3 h4
  · exact .rejected _
  · exact .ignored
  · exact .unknown
  · have h3' : segment.flags.syn = true ∧ segment.flags.ack = false := by simpa using h3
    exact openDnsTcp_admission h3'.1 h3'.2 (by simpa using h2) h4
  · have h3' : segment.flags.syn = true ∧ segment.flags.ack = false := by simpa using h3
    exact openTcp_admission h3'.1 h3'.2 (by simpa using h2) h4

lemma openFlow_lookup (s : PacketProcessor) (flow : FlowRecord) (key : FlowKey) :
    (s.openFlow flow).flows.lookup key = if key = flow.key then some flow else s.flows.lookup key :=
  insertFlow_lookup _ flow key

namespace Admission

variable {segment : TcpSegment} {input : PacketEngineInput} {o : Outcome}

lemma lookup_of_ne (h : s.Admission segment input o) (hk : key ≠ segment.key) :
    o.1.flows.lookup key = s.flows.lookup key := by
  cases h with
  | dnsOpened | tcpOpened => exact (s.openFlow_lookup _ key).trans (if_neg hk)
  | _ => rfl

end Admission

lemma process_explained_of_no_flow
    (hd : ∀ key flow, s.flows.lookup key = some flow → s.directed key (.process input) = [])
    (hn : s.failures (.process input) = [])
    (hl : ∀ key flow, s.flows.lookup key = some flow → (s.process input).1.flows.lookup key = some flow)
    (ho : (s.process input).2 ⊆ s.own (.process input)) : s.Explained (.process input) := by
  refine explained_of_idle (fun key flow hf => ?_) hl ho
  rw [deliveries, hd key flow hf, hn]
  simp [failuresOf]

lemma process_flows_of_not_tcp (h : ∀ segment, classify input.packet ≠ .ok (.tcp segment)) :
    (s.process input).1.flows = s.flows := by
  unfold process
  split
  · rfl
  · rfl
  · unfold processUdp
    dsimp only
    split_ifs <;> rfl
  · rename_i segment hc
    exact absurd hc (h segment)
  · rfl
  · rfl

lemma process_explained_of_not_tcp (h : ∀ segment, classify input.packet ≠ .ok (.tcp segment)) :
    s.Explained (.process input) := by
  refine process_explained_of_no_flow (fun key _ _ => ?_) ?_ (fun key flow hf => ?_) ?_
  · simp only [directed]
  · simp only [failures]
  · rw [process_flows_of_not_tcp h, hf]
  · simp only [own]
    exact List.Subset.refl _

section Tcp

variable {input : PacketEngineInput} {segment : TcpSegment}

lemma process_of_tcp (hc : classify input.packet = .ok (.tcp segment)) :
    s.process input = s.processTcp segment input := by
  simp only [process, hc]

lemma process_explained_of_unknown (hc : classify input.packet = .ok (.tcp segment))
    (hf : s.flows.lookup segment.key = none) : s.Explained (.process input) := by
  have hadm := processTcp_admission input hf
  have hne : ∀ key flow, s.flows.lookup key = some flow → key ≠ segment.key := by
    rintro key flow hk rfl
    rw [hf] at hk
    cases hk
  refine process_explained_of_no_flow (fun key flow hk => ?_) ?_ (fun key flow hk => ?_) ?_
  · simp [directed, hc, (hne key flow hk).symm]
  · simp [failures, hc, hf]
  · rw [process_of_tcp hc, hadm.lookup_of_ne (hne key flow hk), hk]
  · rw [process_of_tcp hc]
    simp [own, hc, hf]

variable {flow : FlowRecord}

lemma processExistingTcp_lookup (hf : s.flows.lookup segment.key = some flow) (now : ℕ)
    (key : FlowKey) : (s.processExistingTcp segment.key flow segment now).1.flows.lookup key =
      if key = segment.key then
        (flow.step s.config (.segment s.pendingDns s.nextDnsId segment now)).1
      else s.flows.lookup key := by
  have hput := putFlow_lookup_of hf
    (flow.receiveSegment s.config s.pendingDns s.nextDnsId segment now).flow key
  simp only [processExistingTcp, step]
  split_ifs with hr hk hk
  · rw [removeFlow_lookup, if_pos hk]
  · rw [removeFlow_lookup, if_neg hk]
    exact hput.trans (if_neg hk)
  · exact hput.trans (if_pos hk)
  · exact hput.trans (if_neg hk)

lemma directed_process (hc : classify input.packet = .ok (.tcp segment)) (key : FlowKey) :
    s.directed key (.process input) = if key = segment.key then
      (if malformedSyn segment then []
        else if segment.flags.rst then [.reset]
        else if !protectedState input.connectionState then []
        else [.segment s.pendingDns s.nextDnsId segment input.platform.monotonicMs])
      else [] := by
  simp only [directed, hc]
  by_cases hk : key = segment.key
  · subst hk
    cases malformedSyn segment <;> simp
  · simp [hk, Ne.symm hk]

lemma failures_process (hc : classify input.packet = .ok (.tcp segment))
    (hf : s.flows.lookup segment.key = some flow) :
    s.failures (.process input) = if malformedSyn segment then [(flow.flowId, .malformedPacket)]
      else if segment.flags.rst || protectedState input.connectionState then []
      else [(flow.flowId, .protectedPathUnavailable)] := by
  simp only [failures, hc, hf]

inductive Dispatch (s : PacketProcessor) (segment : TcpSegment) (input : PacketEngineInput)
    (flow : FlowRecord) : Outcome → Prop
  | malformed (hm : malformedSyn segment = true) :
      Dispatch s segment input flow (s.failFlow flow.flowId .malformedPacket)
  | reset (hm : malformedSyn segment = false) (hr : segment.flags.rst = true) :
      Dispatch s segment input flow (s.removeFlow segment.key, [flow.close .both])
  | unprotected (hm : malformedSyn segment = false) (hr : segment.flags.rst = false)
      (hp : protectedState input.connectionState = false) :
      Dispatch s segment input flow (s.failFlow flow.flowId .protectedPathUnavailable)
  | received (hm : malformedSyn segment = false) (hr : segment.flags.rst = false)
      (hp : protectedState input.connectionState = true) :
      Dispatch s segment input flow
        (s.processExistingTcp segment.key flow segment input.platform.monotonicMs)

lemma processTcp_dispatch (hf : s.flows.lookup segment.key = some flow)
    (input : PacketEngineInput) : s.Dispatch segment input flow (s.processTcp segment input) := by
  simp only [processTcp, hf, resetByKey]
  split_ifs with hm hr hp
  · exact .malformed hm
  · exact .reset (Bool.eq_false_iff.mpr hm) hr
  · exact .unprotected (Bool.eq_false_iff.mpr hm) (Bool.eq_false_iff.mpr hr) (by simpa using hp)
  · exact .received (Bool.eq_false_iff.mpr hm) (Bool.eq_false_iff.mpr hr) (by simpa using hp)

lemma process_explained_of_known (h : s.Sound) (hc : classify input.packet = .ok (.tcp segment))
    (hf : s.flows.lookup segment.key = some flow) : s.Explained (.process input) := by
  have hown : s.own (.process input) = [] := by simp [own, hc, hf]
  have hp : s.perform (.process input) = s.processTcp segment input := process_of_tcp hc
  have hdir := directed_process (s := s) hc
  have hfail := failures_process hc hf
  have hfailing : ∀ reason, s.failures (.process input) = [(flow.flowId, reason)] →
      s.perform (.process input) = s.failFlow flow.flowId reason →
      (∀ key, s.directed key (.process input) = []) → s.Explained (.process input) := by
    intro reason hr ht hd
    refine explained_of_failEach (t := s) h rfl (fun _ => rfl) (fun _ => rfl) hd ?_ ?_
    · rw [ht, hr]
      rfl
    · rw [ht, hr, hown]
      simp [failEach]
  have hdis := processTcp_dispatch hf input
  generalize s.processTcp segment input = o at hdis hp
  cases hdis with
  | malformed hm =>
    exact hfailing .malformedPacket (by simp [hfail, hm]) hp fun key => by simp [hdir, hm]
  | reset hm hr =>
    refine explained_of_event .reset hf (fun key => ?_) ?_ (fun key => ?_) (by rw [hp]; rfl)
    · simp [hdir, hm, hr]
    · simp [hfail, hm, hr]
    · rw [hp]
      exact s.removeFlow_lookup _ key
  | unprotected hm hr hs =>
    exact hfailing .protectedPathUnavailable (by simp [hfail, hm, hr, hs]) hp
      fun key => by simp [hdir, hm, hr, hs]
  | received hm hr hs =>
    refine explained_of_event
      (.segment s.pendingDns s.nextDnsId segment input.platform.monotonicMs) hf
      (fun key => ?_) ?_ (fun key => ?_) (by rw [hp]; rfl)
    · simp [hdir, hm, hr, hs]
    · simp [hfail, hm, hr, hs]
    · rw [hp]
      exact processExistingTcp_lookup hf _ key

lemma process_explained (h : s.Sound) (input : PacketEngineInput) :
    s.Explained (.process input) := by
  by_cases ht : ∃ segment, classify input.packet = .ok (.tcp segment)
  · obtain ⟨segment, hc⟩ := ht
    cases hf : s.flows.lookup segment.key with
    | none => exact process_explained_of_unknown hc hf
    | some flow => exact process_explained_of_known h hc hf
  · exact process_explained_of_not_tcp fun segment hc => ht ⟨segment, hc⟩

end Tcp

theorem perform_explained (h : s.Sound) (call : Call) : s.Explained call := by
  cases call with
  | process input => exact process_explained h input
  | protectedStreamOpened id now =>
    exact explained_of_answered h rfl rfl rfl (fun _ => rfl) rfl (fun hi => by simp [own, hi])
      (s.protectedStreamOpened_answered id now)
  | acknowledgeForwarded id bytes now =>
    exact explained_of_answered h rfl rfl rfl (fun _ => rfl) rfl (fun _ => rfl)
      (s.acknowledgeForwarded_answered id bytes now)
  | protectedPayload id payload now =>
    exact explained_of_answered h rfl rfl rfl (fun _ => rfl) rfl (fun hi => by simp [own, hi])
      (s.protectedPayload_answered id payload now)
  | protectedStreamClosed id now =>
    exact explained_of_answered h rfl rfl rfl (fun _ => rfl) rfl (fun _ => rfl)
      (s.protectedStreamClosed_answered id now)
  | failFlow id reason => exact failFlow_explained h id reason
  | completeDns queryId wire now => exact completeDns_explained h queryId wire now
  | tick now => exact tick_explained h now
  | suspend now => exact suspend_explained s now
  | resume now healthy => exact resume_explained h now healthy
  | shutdown => exact shutdown_explained h
  | failAll reason => exact failAll_explained h reason

inductive Delivered (s : PacketProcessor) (key : FlowKey) (flow : FlowRecord) :
    Call → FlowEvent → Prop
  | segment {input : PacketEngineInput} {segment : TcpSegment}
      (hc : classify input.packet = .ok (.tcp segment)) (hk : segment.key = key)
      (hm : malformedSyn segment = false) (hr : segment.flags.rst = false)
      (hp : protectedState input.connectionState = true) :
      Delivered s key flow (.process input)
        (.segment s.pendingDns s.nextDnsId segment input.platform.monotonicMs)
  | reset {input : PacketEngineInput} {segment : TcpSegment}
      (hc : classify input.packet = .ok (.tcp segment)) (hk : segment.key = key)
      (hr : segment.flags.rst = true) : Delivered s key flow (.process input) .reset
  | opened {flowId : FlowId} (now : ℕ) (hid : s.ids.lookup flowId = some key) :
      Delivered s key flow (.protectedStreamOpened flowId now) (.opened now)
  | acknowledged {flowId : FlowId} (bytes now : ℕ) (hid : s.ids.lookup flowId = some key) :
      Delivered s key flow (.acknowledgeForwarded flowId bytes now) (.acknowledged bytes now)
  | payload {flowId : FlowId} (payload : Bytes) (now : ℕ) (hid : s.ids.lookup flowId = some key) :
      Delivered s key flow (.protectedPayload flowId payload now) (.payload payload now)
  | answer {queryId : UInt64} {wire : Bytes} {flowId : FlowId} (now : ℕ)
      (hq : s.pendingDns.lookup queryId = some (.tcp flowId)) (hv : validAnswer wire = true)
      (hid : s.ids.lookup flowId = some key) :
      Delivered s key flow (.completeDns queryId wire now) (.payload (framed wire) now)
  | fin {flowId : FlowId} (now : ℕ) (hid : s.ids.lookup flowId = some key) :
      Delivered s key flow (.protectedStreamClosed flowId now) (.fin now)
  | tick (now : ℕ) (h : s.suspendedAtMs = none) : Delivered s key flow (.tick now) (.tick now)
  | postponed {now suspendedAt : ℕ} (h : s.suspendedAtMs = some suspendedAt) :
      Delivered s key flow (.resume now true) (.postponed (now - suspendedAt))
  | failed {call : Call} {reason : BlockReason} (hid : s.ids.lookup flow.flowId = some key)
      (h : (flow.flowId, reason) ∈ s.failures call) :
      Delivered s key flow call (.failed reason)

inductive Directs (s : PacketProcessor) (key : FlowKey) (flow : FlowRecord) (call : Call) :
    List FlowEvent → Prop
  | nothing : Directs s key flow call []
  | event {event : FlowEvent} (hd : s.Delivered key flow call event)
      (hn : s.flows.lookup key = some flow → s.failures call = []) : Directs s key flow call [event]
  | tick {now : ℕ} (hd : s.Delivered key flow call (.tick now)) : Directs s key flow call [.tick now]

variable {flow : FlowRecord}

lemma directs_callback {id : FlowId}
    (hd : s.ids.lookup id = some key → s.Delivered key flow call event)
    (hn : s.failures call = []) : s.Directs key flow call (s.callback key id event) := by
  unfold callback
  split_ifs with hid
  · exact .event (hd hid) fun _ => hn
  · exact .nothing

lemma directed_process_directs (flow : FlowRecord) :
    s.Directs key flow (.process input) (s.directed key (.process input)) := by
  cases hc : classify input.packet with
  | error e =>
    simp only [directed, hc]
    exact .nothing
  | ok packet =>
    cases packet with
    | tcp segment =>
      rw [directed_process hc]
      split_ifs with hk hm hr hp
      · exact .nothing
      · refine .event (.reset hc hk.symm hr) fun hf => ?_
        rw [failures_process hc (hk ▸ hf)]
        simp [hm, hr]
      · exact .nothing
      · simp only [Bool.not_eq_true', Bool.not_eq_false] at hp
        refine .event (.segment hc hk.symm (Bool.eq_false_iff.mpr hm) (Bool.eq_false_iff.mpr hr) hp)
          fun hf => ?_
        rw [failures_process hc (hk ▸ hf)]
        simp [hm, hp]
      · exact .nothing
    | _ =>
      simp only [directed, hc]
      exact .nothing

lemma directed_directs (s : PacketProcessor) (key : FlowKey) (flow : FlowRecord) (call : Call) :
    s.Directs key flow call (s.directed key call) := by
  cases call with
  | process input => exact directed_process_directs flow
  | protectedStreamOpened id now => exact directs_callback (.opened now) rfl
  | acknowledgeForwarded id bytes now => exact directs_callback (.acknowledged bytes now) rfl
  | protectedPayload id payload now => exact directs_callback (.payload payload now) rfl
  | protectedStreamClosed id now => exact directs_callback (.fin now) rfl
  | completeDns queryId wire now =>
    simp only [directed]
    split
    · rename_i hq
      split_ifs with hv
      · exact directs_callback (.answer now hq hv) (by simp [failures, hq, hv])
      · exact .nothing
    · exact .nothing
  | tick now =>
    simp only [directed]
    split_ifs with hs
    · exact .nothing
    · exact .tick (.tick now (by simpa using hs))
  | resume now healthy =>
    simp only [directed]
    split
    · rename_i hs
      split_ifs with hv
      · subst hv
        exact .event (.postponed hs) fun _ => by simp [failures]
      · exact .nothing
    · exact .nothing
  | _ => exact .nothing

lemma delivered_of_mem (h : event ∈ s.deliveries key flow call) :
    Delivered s key flow call event := by
  rcases List.mem_append.mp h with h | h
  · have hdir := s.directed_directs key flow call
    generalize s.directed key call = events at h hdir
    cases hdir with
    | nothing => cases h
    | event hd | tick hd =>
      rw [List.mem_singleton.mp h]
      exact hd
  · obtain hn | ⟨reason, hn, hid, hm⟩ := s.failuresOf_cases key flow (s.failures call)
    · simp [hn] at h
    · rw [hn] at h
      rw [List.mem_singleton.mp h]
      exact .failed hid hm

lemma deliveries_cases (hf : s.flows.lookup key = some flow) (call : Call) :
    s.deliveries key flow call = [] ∨
      (∃ event, s.deliveries key flow call = [event]) ∨
      ∃ now reason, s.deliveries key flow call = [.tick now, .failed reason] := by
  have hdir := s.directed_directs key flow call
  have hfail := s.failuresOf_cases key flow (s.failures call)
  rw [deliveries]
  generalize s.directed key call = events at hdir
  cases hdir with
  | nothing =>
    obtain hn | ⟨reason, hn, _⟩ := hfail
    · exact .inl (by rw [hn]; rfl)
    · exact .inr (.inl ⟨.failed reason, by rw [hn]; rfl⟩)
  | event _ hn => exact .inr (.inl ⟨_, by rw [hn hf, failuresOf_nil]; rfl⟩)
  | tick =>
    obtain hn | ⟨reason, hn, _⟩ := hfail
    · exact .inr (.inl ⟨_, by rw [hn]; rfl⟩)
    · exact .inr (.inr ⟨_, reason, by rw [hn]; rfl⟩)

end PacketProcessor

end OnionRoute.PacketEngine
