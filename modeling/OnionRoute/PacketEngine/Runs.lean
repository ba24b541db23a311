import OnionRoute.PacketEngine.Deliveries
import OnionRoute.PacketEngine.PacketRoundTrip

/-! What every call of the processor keeps, and the induction over the life of a flow. -/

namespace OnionRoute.PacketEngine

open Library Relation PacketProcessor FlowRecord

variable {I : PacketProcessor → Prop}

namespace PacketProcessor

variable {s t u : PacketProcessor}

inductive Asks (s : PacketProcessor) : DnsResponseTarget → Prop
  | udp {client resolver : TransportEndpoint} (ha : s.accepting = true) (hc : client.port ≠ 0)
      (hr : resolver.port ≠ 0) : Asks s (.udp client resolver)
  | tcp {key : FlowKey} {flow : FlowRecord} (hf : s.flows.lookup key = some flow)
      (hd : flow.dnsTcp = true) : Asks s (.tcp flow.flowId)

inductive Edit (s : PacketProcessor) : PacketProcessor → Prop
  | put {key : FlowKey} {flow next : FlowRecord} (hf : s.flows.lookup key = some flow)
      (hs : FlowRecord.Same flow next) : Edit s (s.putFlow key next)
  | remove (key : FlowKey) : Edit s (s.removeFlow key)
  | sweep {g : FlowRecord → FlowRecord} (hg : ∀ f, FlowRecord.Same f (g f)) :
      Edit s { s with flows := s.flows.mapValues g }
  | ask {target : DnsResponseTarget} (ht : s.Asks target)
      (hroom : s.pendingDns.size < s.config.maxPendingDns) : Edit s { s with
        pendingDns := s.pendingDns.insert s.nextDnsId target
        nextDnsId := SegmentProgress.nextQueryId s.nextDnsId }
  | take (queryId : UInt64) : Edit s { s with pendingDns := s.pendingDns.erase queryId }
  | forget : Edit s { s with pendingDns := ∅ }
  | stop : Edit s { s with accepting := false }
  | sleep (since : Option ℕ) : Edit s { s with suspendedAtMs := since }

abbrev Edits : PacketProcessor → PacketProcessor → Prop := ReflTransGen Edit

variable {key : FlowKey} {flow : FlowRecord}

lemma lookup_of_flowOf {id : FlowId} (h : s.flowOf id = some (key, flow)) :
    s.flows.lookup key = some flow := by
  unfold flowOf at h
  split at h
  · cases h
  · obtain ⟨flow', hf, he⟩ := Option.map_eq_some_iff.mp h
    obtain ⟨rfl, rfl⟩ := Prod.mk.inj he
    exact hf

lemma failFlow_edits (s : PacketProcessor) (id : FlowId) (reason : BlockReason) :
    Edits s (s.failFlow id reason).1 := by
  unfold failFlow
  split
  · exact .refl
  · exact .single (.remove _)

lemma failEach_edits (s : PacketProcessor) (failures : List (FlowId × BlockReason)) :
    Edits s (s.failEach failures).1 :=
  failEach_invariant (fun key hu => hu.tail (.remove key)) .refl failures

lemma receiveSegment_asks {next : FlowRecord} (hf : s.flows.lookup key = some next)
    (hs : Same flow next) (segment : TcpSegment) (now : ℕ) :
    Edits s { s with
      pendingDns := (flow.receiveSegment s.config s.pendingDns s.nextDnsId segment now).pendingDns
      nextDnsId := (flow.receiveSegment s.config s.pendingDns s.nextDnsId segment now).nextDnsId } := by
  have hedit : ∀ {p q}, Same flow p.flow ∧ Edits s { s with
        pendingDns := p.pendingDns, nextDnsId := p.nextDnsId } →
      SegmentProgress.Edit s.config segment p q → Same flow q.flow ∧ Edits s { s with
        pendingDns := q.pendingDns, nextDnsId := q.nextDnsId } := by
    rintro p q ⟨hsame, hp⟩ he
    refine ⟨hsame.trans he.same, ?_⟩
    cases he with
    | ask hd _ hroom =>
      refine hp.tail (.ask ?_ hroom)
      rw [hsame.flowId, ← hs.flowId]
      exact .tcp hf (hs.dnsTcp.trans (hsame.dnsTcp.symm.trans hd))
    | _ => exact hp
  have h0 : Same flow (flow.arrival s.pendingDns s.nextDnsId now).flow ∧ Edits s { s with
      pendingDns := (flow.arrival s.pendingDns s.nextDnsId now).pendingDns
      nextDnsId := (flow.arrival s.pendingDns s.nextDnsId now).nextDnsId } :=
    ⟨⟨rfl, rfl, rfl, rfl⟩, .refl⟩
  exact (receiveSegment_invariant hedit h0).2

lemma processExistingTcp_edits (hf : s.flows.lookup key = some flow)
    (segment : TcpSegment) (now : ℕ) :
    Edits s (s.processExistingTcp key flow segment now).1 := by
  have hsame := flow.receiveSegment_same s.config s.pendingDns s.nextDnsId segment now
  have hasks := (ReflTransGen.single (Edit.put hf hsame)).trans
    (receiveSegment_asks ((putFlow_lookup_of hf _ key).trans (if_pos rfl)) hsame segment now)
  simp only [processExistingTcp]
  split_ifs
  · exact hasks.tail (.remove key)
  · exact hasks

lemma processTcp_edits {segment : TcpSegment} (hf : s.flows.lookup segment.key = some flow)
    (input : PacketEngineInput) :
    Edits s (s.processTcp segment input).1 := by
  have hdis := processTcp_dispatch hf input
  generalize s.processTcp segment input = o at hdis
  cases hdis with
  | malformed | unprotected => exact failFlow_edits s _ _
  | reset => exact .single (.remove _)
  | received => exact processExistingTcp_edits hf segment _

lemma process_edits_of_not_tcp {input : PacketEngineInput}
    (hn : ∀ segment, classify input.packet ≠ .ok (.tcp segment)) : Edits s (s.process input).1 := by
  unfold process
  split
  · exact .refl
  · exact .refl
  · rename_i datagram hc
    unfold processUdp
    dsimp only
    split_ifs with h1 h2 h3 h4
    · exact .refl
    · exact .refl
    · exact .refl
    · simp only [not_or, not_le] at h4
      have hports := classify_udp_ports hc
      exact .single (.ask (.udp (by simpa using h2) hports.1 hports.2) h4.2.2)
    · exact .refl
    · exact .refl
  · rename_i segment hc
    exact absurd hc (hn segment)
  · exact .refl
  · exact .refl

lemma Answered.edits {id : FlowId} {event : FlowEvent} {unknown : List EngineAction} {o : Outcome}
    (h : s.Answered id event unknown o) : Edits s o.1 := by
  cases h with
  | unknown => exact .refl
  | known ho hc =>
    have hf := lookup_of_flowOf ho
    generalize step _ _ event = step at hc
    cases hc with
    | kept => exact .refl
    | put hs => exact .single (.put hf hs)
    | removed hs => exact .head (.put hf hs) (.single (.remove _))
    | failed => exact failFlow_edits s _ _

lemma completeDns_edits (s : PacketProcessor) (queryId : UInt64) (wire : Bytes) (now : ℕ) :
    Edits s (s.completeDns queryId wire now).1 := by
  have htake : Edits s { s with pendingDns := s.pendingDns.erase queryId } := .single (.take queryId)
  by_cases htcp : ∃ id, s.pendingDns.lookup queryId = some (.tcp id) ∧ validAnswer wire = true
  · obtain ⟨id, hq, hv⟩ := htcp
    exact htake.trans (completeDns_answered hq hv now).edits
  unfold completeDns
  split
  · exact .refl
  · dsimp only
    split
    · split
      · exact htake.trans (failFlow_edits _ _ _)
      · exact htake
    · split
      · split_ifs <;> exact htake
      · rename_i hv _ _ hq
        exact absurd ⟨_, hq, by simpa [validAnswer] using hv⟩ htcp

lemma resume_edits (s : PacketProcessor) (now : ℕ) (healthy : Bool) :
    Edits s (s.resume now healthy).1 := by
  have hwake : Edits s { s with suspendedAtMs := none } := .single (.sleep none)
  unfold resume
  split
  · exact .refl
  · dsimp only
    split_ifs
    · exact hwake.trans (failEach_edits _ _)
    · exact hwake.tail (.sweep fun flow => ⟨rfl, rfl, rfl, rfl⟩)

structure Frame (s t : PacketProcessor) : Prop where
  sound : t.Sound
  config : t.config = s.config
  nextFlowId : t.nextFlowId = s.nextFlowId
  accepting : t.accepting = true → s.accepting = true
  flows : ∀ {key flow}, t.flows.lookup key = some flow →
    ∃ old, s.flows.lookup key = some old ∧ flow.flowId = old.flowId
  ids : ∀ {id key}, t.ids.lookup id = some key → s.ids.lookup id = some key
  named : s.Named → t.Named

namespace Frame

lemma refl (h : s.Sound) : Frame s s :=
  ⟨h, rfl, rfl, id, fun hf => ⟨_, hf, rfl⟩, id, id⟩

lemma trans (a : Frame s t) (b : Frame t u) : Frame s u where
  sound := b.sound
  config := b.config.trans a.config
  nextFlowId := b.nextFlowId.trans a.nextFlowId
  accepting := a.accepting ∘ b.accepting
  flows hf := by
    obtain ⟨g, hg, hi⟩ := b.flows hf
    obtain ⟨old, ho, hj⟩ := a.flows hg
    exact ⟨old, ho, hi.trans hj⟩
  ids := a.ids ∘ b.ids
  named := b.named ∘ a.named

lemma of_tables (h : s.Sound) (hf : t.flows = s.flows) (hi : t.ids = s.ids)
    (hc : t.config = s.config) (hn : t.nextFlowId = s.nextFlowId)
    (ha : t.accepting = true → s.accepting = true) : Frame s t :=
  ⟨h.of_tables (fun _ => by rw [hf]) fun _ => by rw [hi], hc, hn, ha,
    fun hl => ⟨_, by rw [← hf]; exact hl, rfl⟩, fun hl => by rwa [hi] at hl,
    fun hn key flow hk => by rw [hi]; exact hn key flow (by rwa [hf] at hk)⟩

lemma removeFlow (h : s.Sound) (key : FlowKey) : Frame s (s.removeFlow key) := by
  refine ⟨h.removeFlow key, removeFlow_config s key, ?_, ?_, fun {k f} hk => ?_,
    fun {id k} hi => ?_, fun hn k f hk => ?_⟩
  · unfold PacketProcessor.removeFlow
    split <;> rfl
  · unfold PacketProcessor.removeFlow
    split <;> exact id
  · exact ⟨f, (removeFlow_lookup_eq_some hk).2, rfl⟩
  · cases hf : s.flows.lookup key with
    | none =>
      rw [PacketProcessor.removeFlow, hf] at hi
      exact hi
    | some flow =>
      rw [removeFlow_ids hf] at hi
      exact (Table.lookup_erase_eq_some hi).2
  · obtain ⟨hne, hk⟩ := removeFlow_lookup_eq_some hk
    cases hf : s.flows.lookup key with
    | none =>
      rw [PacketProcessor.removeFlow, hf]
      exact hn k f hk
    | some flow =>
      -- two live records with one identifier would be reached under one key
      have hid : f.flowId ≠ flow.flowId := by
        intro he
        have hkey := hn key flow hf
        rw [← he, hn k f hk] at hkey
        exact hne (Option.some.inj hkey)
      rw [removeFlow_ids hf, Table.lookup_erase_of_ne s.ids hid]
      exact hn k f hk

lemma of_flows {flows : Table FlowKey FlowRecord} (h : Sound { s with flows })
    (hold : ∀ {k f}, flows.lookup k = some f →
      ∃ old, s.flows.lookup k = some old ∧ f.flowId = old.flowId) : Frame s { s with flows } := by
  refine ⟨h, rfl, rfl, id, hold, id, fun hn k f hk => ?_⟩
  obtain ⟨old, ho, hi⟩ := hold hk
  rw [hi]
  exact hn k old ho

variable (h : s.Sound)
include h

lemma putFlow {next : FlowRecord} (hf : s.flows.lookup key = some flow)
    (hs : Same flow next) : Frame s (s.putFlow key next) := by
  refine of_flows (h.putFlow hf hs) fun {k f} hk => ?_
  change (s.putFlow key next).flows.lookup k = some f at hk
  rw [putFlow_lookup_of hf] at hk
  split_ifs at hk with he
  · obtain rfl := Option.some.inj hk
    exact ⟨flow, by rw [he, hf], hs.flowId⟩
  · exact ⟨f, hk, rfl⟩

lemma mapFlows {g : FlowRecord → FlowRecord} (hg : ∀ f, Same f (g f)) :
    Frame s { s with flows := s.flows.mapValues g } := by
  refine of_flows (h.mapFlows hg) fun {k f} hk => ?_
  simp only [Table.lookup_mapValues, Option.map_eq_some_iff] at hk
  obtain ⟨old, ho, rfl⟩ := hk
  exact ⟨old, ho, (hg old).flowId⟩

lemma edit (he : Edit s t) : Frame s t := by
  cases he with
  | put hf hs => exact putFlow h hf hs
  | remove key => exact removeFlow h key
  | sweep hg => exact mapFlows h hg
  | ask | take | forget | sleep => exact of_tables h rfl rfl rfl rfl id
  | stop => exact of_tables h rfl rfl rfl rfl fun ha => absurd ha Bool.false_ne_true

lemma edits (he : Edits s t) : Frame s t := by
  induction he with
  | refl => exact refl h
  | tail _ hlast ih => exact ih.trans (edit ih.sound hlast)

end Frame

inductive Opening (s : PacketProcessor) (key : FlowKey) : Call → FlowRecord → Prop
  | dns {input : PacketEngineInput} {segment : TcpSegment}
      (hc : classify input.packet = .ok (.tcp segment)) (hk : segment.key = key)
      (h : s.Opens segment input) (port : segment.destinationPort = 53) :
      Opening s key (.process input) (dnsFlow s.config ⟨s.nextFlowId⟩ key segment input.platform)
  | tcp {input : PacketEngineInput} {segment : TcpSegment} {route : ProtectedRoute}
      (hc : classify input.packet = .ok (.tcp segment)) (hk : segment.key = key)
      (h : s.Opens segment input) (hroute : input.route = some route)
      (htunnel : route.decision.action = .tunnel) (port : segment.destinationPort ≠ 53) :
      Opening s key (.process input)
        (tcpFlow s.config ⟨s.nextFlowId⟩ key segment input.platform route)

namespace Opening

variable {call : Call}

lemma key_eq (h : s.Opening key call flow) : flow.key = key := by
  cases h <;> rfl

lemma limits_eq (h : s.Opening key call flow) : flow.snapshot.limits = s.config.buffers := by
  cases h <;> rfl

end Opening

lemma processTcp_opening {segment : TcpSegment} {input : PacketEngineInput}
    (hc : classify input.packet = .ok (.tcp segment)) (hf : s.flows.lookup segment.key = none) :
    Edits s (s.processTcp segment input).1 ∨ ∃ flow,
      s.Opening segment.key (.process input) flow ∧
        (s.processTcp segment input).1 = s.openFlow flow := by
  have hadm := processTcp_admission input hf
  generalize s.processTcp segment input = o at hadm
  cases hadm with
  | dnsOpened ho port => exact .inr ⟨_, .dns hc rfl ho port, rfl⟩
  | tcpOpened ho hroute htunnel port => exact .inr ⟨_, .tcp hc rfl ho hroute htunnel port, rfl⟩
  | _ => exact .inl .refl

theorem perform_edits (s : PacketProcessor) (call : Call) :
    Edits s (s.perform call).1 ∨ ∃ key flow, s.flows.lookup key = none ∧
      s.Opening key call flow ∧ (s.perform call).1 = s.openFlow flow := by
  cases call with
  | process input =>
    by_cases ht : ∃ segment, classify input.packet = .ok (.tcp segment)
    · obtain ⟨segment, hc⟩ := ht
      simp only [perform, process_of_tcp hc]
      cases hf : s.flows.lookup segment.key with
      | none =>
        obtain hE | ⟨flow, ho, he⟩ := processTcp_opening hc hf
        · exact .inl hE
        · exact .inr ⟨segment.key, flow, hf, ho, he⟩
      | some flow => exact .inl (processTcp_edits hf input)
    · exact .inl (process_edits_of_not_tcp fun segment hc => ht ⟨segment, hc⟩)
  | protectedStreamOpened id now => exact .inl (s.protectedStreamOpened_answered id now).edits
  | acknowledgeForwarded id bytes now =>
    exact .inl (s.acknowledgeForwarded_answered id bytes now).edits
  | protectedPayload id payload now => exact .inl (s.protectedPayload_answered id payload now).edits
  | protectedStreamClosed id now => exact .inl (s.protectedStreamClosed_answered id now).edits
  | failFlow id reason => exact .inl (failFlow_edits s id reason)
  | completeDns queryId wire now => exact .inl (completeDns_edits s queryId wire now)
  | tick now =>
    left
    simp only [perform, tick]
    split_ifs
    · exact .refl
    · exact .head (.sweep fun flow => flow.afterTick_same s.config now) (failEach_edits _ _)
  | suspend now => exact .inl (.single (.sleep _))
  | resume now healthy => exact .inl (resume_edits s now healthy)
  | shutdown => exact .inl (.head .stop (.head .forget (failEach_edits _ _)))
  | failAll reason => exact .inl (.head .forget (failEach_edits _ _))

lemma perform_invariant (call : Call)
    (hedit : ∀ {t u}, I t → Edit t u → I u)
    (hopen : ∀ {key flow}, s.flows.lookup key = none → s.Opening key call flow →
      I (s.openFlow flow)) (h : I s) : I (s.perform call).1 := by
  rcases perform_edits s call with hedits | ⟨key, flow, hn, ho, he⟩
  · generalize (s.perform call).1 = t at hedits
    induction hedits with
    | refl => exact h
    | tail _ hlast ih => exact hedit ih hlast
  · rw [he]
    exact hopen hn ho

lemma perform_frame (h : s.Sound) (call : Call) :
    Frame s (s.perform call).1 ∨ ∃ key flow, s.flows.lookup key = none ∧
      s.Opening key call flow ∧ (s.perform call).1 = s.openFlow flow :=
  (perform_edits s call).imp_left (Frame.edits h)

lemma Sound.openFlow (h : s.Sound) (hf : s.flows.lookup flow.key = none) :
    (s.openFlow flow).Sound :=
  Sound.insertFlow (h.of_tables (t := s.allocateFlowId.1) (fun _ => rfl) fun _ => rfl) hf

theorem Sound.perform (h : s.Sound) (call : Call) : (s.perform call).1.Sound := by
  obtain hF | ⟨key, flow, hn, ho, he⟩ := perform_frame h call
  · exact hF.sound
  · rw [he]
    exact h.openFlow (by rw [ho.key_eq, hn])

lemma perform_config (h : s.Sound) (call : Call) : (s.perform call).1.config = s.config := by
  obtain hF | ⟨key, flow, hn, ho, he⟩ := perform_frame h call
  · exact hF.config
  · rw [he]
    rfl

theorem opening_of_lookup (h : s.Sound) {call : Call} {key : FlowKey} {flow : FlowRecord}
    (hn : s.flows.lookup key = none) (hf : (s.perform call).1.flows.lookup key = some flow) :
    s.Opening key call flow ∧ (s.perform call).1 = s.openFlow flow := by
  obtain hF | ⟨k, g, hk, ho, he⟩ := perform_frame h call
  · obtain ⟨old, hold, _⟩ := hF.flows hf
    rw [hn] at hold
    cases hold
  · rw [he, openFlow_lookup, ho.key_eq] at hf
    split_ifs at hf with hkey
    · subst hkey
      obtain rfl := Option.some.inj hf
      exact ⟨ho, he⟩
    · rw [hn] at hf
      cases hf

namespace Rehashed

lemma flows_lookup (h : s.Rehashed t) (key : FlowKey) : t.flows.lookup key = s.flows.lookup key :=
  Table.lookup_of_perm h.flows key

lemma ids_lookup (h : s.Rehashed t) (id : FlowId) : t.ids.lookup id = s.ids.lookup id :=
  Table.lookup_of_perm h.ids id

lemma pendingDns_lookup (h : s.Rehashed t) (id : UInt64) :
    t.pendingDns.lookup id = s.pendingDns.lookup id :=
  Table.lookup_of_perm h.pendingDns id

lemma refl (s : PacketProcessor) : s.Rehashed s :=
  ⟨rfl, .refl _, .refl _, .refl _, rfl, rfl, rfl, rfl⟩

lemma sound (h : s.Rehashed t) (hs : s.Sound) : t.Sound :=
  hs.of_tables h.flows_lookup h.ids_lookup

end Rehashed

lemma new_eq {config : EngineConfig} (h : new config = some s) :
    s = ⟨config, ∅, ∅, ∅, 1, 1, true, none⟩ := by
  unfold new at h
  split_ifs at h
  exact (Option.some.inj h).symm

lemma sound_new {config : EngineConfig} (h : new config = some s) :
    s.Sound ∧ s.config = config ∧ ∀ key, s.flows.lookup key = none := by
  obtain rfl := new_eq h
  exact ⟨⟨fun hk => by simp at hk, fun hi => by simp at hi⟩, rfl, fun key => by simp⟩

end PacketProcessor

open PacketProcessor

structure Event.Ran (config : EngineConfig) (e : Event) : Prop where
  sound : e.before.Sound
  config : e.before.config = config
  result : e.before.perform e.call = (e.after, e.actions)

namespace Event.Ran

variable {config : EngineConfig} {e : Event} (h : e.Ran config)
include h

lemma after_eq : e.after = (e.before.perform e.call).1 := by
  rw [h.result]

lemma actions_eq : e.actions = (e.before.perform e.call).2 := by
  rw [h.result]

lemma after_sound : e.after.Sound := by
  rw [h.after_eq]
  exact h.sound.perform e.call

lemma after_config : e.after.config = config := by
  rw [h.after_eq, perform_config h.sound, h.config]

variable {key : FlowKey} {flow : FlowRecord}

lemma lookup (hf : e.before.flows.lookup key = some flow) :
    e.after.flows.lookup key =
      (flow.run config (e.before.deliveries key flow e.call)).1 := by
  rw [h.after_eq, ← h.config]
  exact (perform_explained h.sound e.call).lookup hf

lemma emits (hf : e.before.flows.lookup key = some flow) :
    (flow.run config (e.before.deliveries key flow e.call)).2 ⊆ e.actions := by
  rw [h.actions_eq, ← h.config]
  exact (perform_explained h.sound e.call).emits hf

lemma sources {a : EngineAction} (ha : a ∈ e.actions) :
    a ∈ e.before.own e.call ∨ ∃ key flow, e.before.flows.lookup key = some flow ∧
      a ∈ (flow.run config (e.before.deliveries key flow e.call)).2 := by
  rw [h.actions_eq] at ha
  rw [← h.config]
  exact (perform_explained h.sound e.call).sources ha

lemma opening (hn : e.before.flows.lookup key = none)
    (hf : e.after.flows.lookup key = some flow) : e.before.Opening key e.call flow := by
  rw [h.after_eq] at hf
  exact (opening_of_lookup h.sound hn hf).1

end Event.Ran

variable {config : EngineConfig} {s t : PacketProcessor} {events : List Event}

variable {e : Event}

lemma Step.ran (h : Step s e t) (hs : s.Sound) (hc : s.config = config) : e.Ran config :=
  ⟨h.1.sound hs, h.1.config.trans hc, h.2.1⟩

lemma trace_ran (h : Trace Step s events t) (hs : s.Sound) (hc : s.config = config) :
    t.Sound ∧ t.config = config ∧ ∀ e ∈ events, e.Ran config := by
  induction h with
  | nil => exact ⟨hs, hc, fun e he => absurd he List.not_mem_nil⟩
  | snoc _ hstep ih =>
    obtain ⟨ht, hct, hran⟩ := ih
    have he := hstep.ran ht hct
    rw [← hstep.2.2]
    refine ⟨he.after_sound, he.after_config, fun e hm => ?_⟩
    rcases List.mem_append.mp hm with hm | hm
    · exact hran e hm
    · rw [List.mem_singleton.mp hm]
      exact he

lemma Run.ran (h : Run config events s) :
    s.Sound ∧ s.config = config ∧ ∀ e ∈ events, e.Ran config := by
  obtain ⟨s₀, hnew, ht⟩ := h
  obtain ⟨hs, hc, _⟩ := sound_new hnew
  exact trace_ran ht hs hc

lemma Run.after {history life : List Event} (h : Run config (history ++ e :: life) s) :
    e.Ran config ∧ Trace Step e.after life s := by
  have he := h.ran.2.2 e (by simp)
  obtain ⟨s₀, _, ht⟩ := h
  obtain ⟨t, _, ht⟩ := ht.split
  obtain ⟨u, hstep, ht⟩ := ht.cons_inv
  exact ⟨he, hstep.2.2 ▸ ht⟩

theorem life_induction {key : FlowKey} {P : List Event → Option FlowRecord → Prop}
    {life : List Event} (h : Trace Step s life t) (hs : s.Sound) (hc : s.config = config)
    (hlive : ∀ e ∈ life, e.before.flows.lookup key ≠ none) (h0 : P [] (s.flows.lookup key))
    (hstep : ∀ past e flow, past ++ [e] <+: life → P past (some flow) → e.Ran config →
      e.before.flows.lookup key = some flow → P (past ++ [e]) (e.after.flows.lookup key)) :
    P life (t.flows.lookup key) := by
  induction h with
  | nil => exact h0
  | @snoc t u past e ht hlast ih =>
    obtain ⟨hsound, hconf, _⟩ := trace_ran ht hs hc
    have hran := hlast.ran hsound hconf
    have hP := ih (fun e' he' => hlive e' (List.mem_append_left _ he'))
      fun past' e' flow hp => hstep past' e' flow (hp.trans (List.prefix_append _ _))
    obtain ⟨flow, hf⟩ := Option.ne_none_iff_exists'.mp (hlive e (by simp))
    rw [← hlast.1.flows_lookup, hf] at hP
    rw [← hlast.2.2]
    exact hstep past e flow (List.prefix_refl _) hP hran hf

lemma Run.past {past rest : List Event} (h : Run config (past ++ e :: rest) s) :
    ∃ t, Run config past t ∧ t.Rehashed e.before := by
  obtain ⟨s₀, hnew, ht⟩ := h
  obtain ⟨t, hpast, hrest⟩ := ht.split
  obtain ⟨u, hlast, _⟩ := hrest.cons_inv
  exact ⟨t, ⟨s₀, hnew, hpast⟩, hlast.1⟩

theorem Run.history_invariant {P : List Event → FlowKey → FlowRecord → Prop}
    (hopen : ∀ {past e key flow}, e.Ran config → e.before.Opening key e.call flow →
      P (past ++ [e]) key flow)
    (hstep : ∀ {past e key flow next}, e.Ran config → e.before.flows.lookup key = some flow →
      P past key flow → e.after.flows.lookup key = some next → P (past ++ [e]) key next)
    (h : Run config events s) {key : FlowKey} {flow : FlowRecord}
    (hf : s.flows.lookup key = some flow) : P events key flow := by
  obtain ⟨s₀, hnew, ht⟩ := h
  obtain ⟨hs, hc, hempty⟩ := sound_new hnew
  induction ht generalizing key flow with
  | nil =>
    rw [hempty] at hf
    cases hf
  | @snoc t u past e ht hlast ih =>
    obtain ⟨hsound, hconf, _⟩ := trace_ran ht hs hc
    have hran := hlast.ran hsound hconf
    rw [← hlast.2.2] at hf
    cases hb : e.before.flows.lookup key with
    | none => exact hopen hran (hran.opening hb hf)
    | some old => exact hstep hran hb (ih (by rw [← hlast.1.flows_lookup, hb])) hf

variable {P : FlowRecord → Prop}

section

variable
    (hopen : ∀ {s : PacketProcessor} {key call flow}, s.config = config →
      s.Opening key call flow → P flow)
    (hstep : ∀ flow event next, P flow → (flow.step config event).1 = some next → P next)
    (h : Run config events s) {key : FlowKey} {flow : FlowRecord}
include hopen hstep h

theorem Run.flow_invariant (hf : s.flows.lookup key = some flow) : P flow := by
  refine Run.history_invariant (P := fun _ _ f => P f) (fun hran ho => hopen hran.config ho)
    (fun hran hb hP hn => ?_) h hf
  rw [hran.lookup hb] at hn
  exact run_invariant config _ (fun f e' g _ => hstep f e' g) hP hn

theorem Run.flow_invariant_before {e : Event} (he : e ∈ events)
    (hf : e.before.flows.lookup key = some flow) : P flow := by
  obtain ⟨past, rest, rfl⟩ := List.append_of_mem he
  obtain ⟨t, hpast, hsame⟩ := h.past
  exact hpast.flow_invariant hopen hstep (by rw [← hsame.flows_lookup, hf])

end

theorem Run.invariant (hnew : ∀ {s}, new config = some s → I s)
    (hre : ∀ {s t}, I s → s.Rehashed t → I t) (hedit : ∀ {s t}, I s → Edit s t → I t)
    (hopen : ∀ {s : PacketProcessor} {key call flow}, s.flows.lookup key = none →
      s.Opening key call flow → I s → I (s.openFlow flow)) (h : Run config events s) : I s := by
  obtain ⟨s₀, hs, ht⟩ := h
  refine Trace.invariant (I := I) ?_ ht (hnew hs)
  rintro s e t ⟨hr, hresult, rfl⟩ hI
  have hbefore := hre hI hr
  have hafter := perform_invariant e.call hedit (fun hn ho => hopen hn ho hbefore) hbefore
  rwa [hresult] at hafter

def Call.segment : Call → Option TcpSegment
  | .process input =>
    match classify input.packet with
    | .ok (.tcp segment) => some segment
    | _ => none
  | _ => none

lemma Call.segment_eq_some {call : Call} {segment : TcpSegment} (h : call.segment = some segment) :
    ∃ input, call = .process input ∧ classify input.packet = .ok (.tcp segment) := by
  cases call with
  | process input =>
    refine ⟨input, rfl, ?_⟩
    simp only [Call.segment] at h
    split at h
    · obtain rfl := Option.some.inj h
      assumption
    · cases h
  | _ => cases h

lemma Call.segment_process {input : PacketEngineInput} {segment : TcpSegment}
    (hc : classify input.packet = .ok (.tcp segment)) :
    (Call.process input).segment = some segment := by
  simp only [Call.segment, hc]

lemma segment_mem_deliveries {key : FlowKey} {flow : FlowRecord} {call : Call}
    {pendingDns : PendingDns} {nextDnsId : UInt64} {segment : TcpSegment} {now : ℕ}
    (h : .segment pendingDns nextDnsId segment now ∈ s.deliveries key flow call) :
    segment ∈ call.segment ∧ segment.key = key ∧ ∃ input, call = .process input ∧
      protectedState input.connectionState = true := by
  have hd := delivered_of_mem h
  generalize he : FlowEvent.segment pendingDns nextDnsId segment now = event at hd
  cases hd with
  | segment hc hk _ _ hp =>
    obtain ⟨_, _, rfl, _⟩ := FlowEvent.segment.inj he
    exact ⟨Call.segment_process hc, hk, _, rfl, hp⟩
  | _ => cases he

lemma Event.Ran.received (h : e.Ran config) {input : PacketEngineInput} {segment : TcpSegment}
    {flow : FlowRecord} (hcall : e.call = .process input)
    (hc : classify input.packet = .ok (.tcp segment))
    (hf : e.before.flows.lookup segment.key = some flow) (hs : segment.flags.syn = false)
    (hr : segment.flags.rst = false) (hp : protectedState input.connectionState = true) :
    flow.step config (.segment e.before.pendingDns e.before.nextDnsId segment
      input.platform.monotonicMs) = (e.after.flows.lookup segment.key, e.actions) := by
  have hresult : (e.after, e.actions) = e.before.processExistingTcp segment.key flow segment
      input.platform.monotonicMs := by
    rw [← h.result, hcall]
    refine (process_of_tcp hc).trans ?_
    simp [processTcp, hs, hr, hp, hf]
  have hlookup := processExistingTcp_lookup hf input.platform.monotonicMs segment.key
  rw [← hresult, if_pos rfl, h.config] at hlookup
  have hactions := congrArg Prod.snd hresult
  rw [hlookup, show e.actions = _ from hactions, ← h.config]
  rfl

def eventOf (s : PacketProcessor) (call : Call) : Event :=
  ⟨s, call, (s.perform call).2, (s.perform call).1⟩

def eventsOf (s : PacketProcessor) : List Call → List Event
  | [] => []
  | call :: calls => eventOf s call :: eventsOf (eventOf s call).after calls

def finalOf (s : PacketProcessor) (calls : List Call) : PacketProcessor :=
  calls.foldl (fun s call => (s.perform call).1) s

section

variable (s : PacketProcessor)

lemma finalOf_append (xs ys : List Call) : finalOf s (xs ++ ys) = finalOf (finalOf s xs) ys := by
  simp [finalOf]

lemma eventsOf_append (xs ys : List Call) :
    eventsOf s (xs ++ ys) = eventsOf s xs ++ eventsOf (finalOf s xs) ys := by
  induction xs generalizing s with
  | nil => rfl
  | cons call xs ih =>
    simp only [List.cons_append, eventsOf, ih]
    rfl

lemma trace_eventsOf (calls : List Call) : Trace Step s (eventsOf s calls) (finalOf s calls) := by
  induction calls generalizing s with
  | nil => exact .nil s
  | cons call calls ih => exact .cons ⟨.refl s, rfl, rfl⟩ (ih _)

end

lemma run_eventsOf (h : new config = some s) (calls : List Call) :
    Run config (eventsOf s calls) (finalOf s calls) :=
  ⟨s, h, trace_eventsOf s calls⟩

lemma run_eventOf (h : new config = some s) (calls : List Call) (call : Call) :
    Run config (eventsOf s calls ++ [eventOf (finalOf s calls) call])
      (eventOf (finalOf s calls) call).after := by
  have hrun := run_eventsOf h (calls ++ [call])
  rw [eventsOf_append, finalOf_append] at hrun
  exact hrun

structure Lifetime (config : EngineConfig) (key : FlowKey) (opening : Event) (flow : FlowRecord)
    (life : List Event) (s : PacketProcessor) : Prop where
  run : ∃ history, Run config (history ++ opening :: life) s
  free : opening.before.flows.lookup key = none
  opened : opening.after.flows.lookup key = some flow
  live : ∀ e ∈ life, e.before.flows.lookup key ≠ none

namespace Lifetime

variable {key : FlowKey} {opening : Event} {flow : FlowRecord} {life : List Event}

section

variable (h : Lifetime config key opening flow life s)
include h

lemma ran : opening.Ran config := by
  obtain ⟨history, hrun⟩ := h.run
  exact hrun.after.1

lemma trace : Trace Step opening.after life s := by
  obtain ⟨history, hrun⟩ := h.run
  exact hrun.after.2

lemma isOpening : opening.before.Opening key opening.call flow :=
  h.ran.opening h.free h.opened

lemma clientNext {syn : TcpSegment} (hs : opening.call.segment = some syn) :
    flow.clientNext = syn.sequence + 1 := by
  have ho := h.isOpening
  generalize opening.call = call at ho hs
  cases ho with
  | dns hc | tcp hc =>
    rw [Call.segment_process hc] at hs
    obtain rfl := Option.some.inj hs
    rfl

lemma connecting (hd : flow.dnsTcp = false) :
    flow.state = .connecting ∧ flow.snapshot.queuedToGateway = 0 ∧
      flow.outstandingToApplication = none := by
  have ho := h.isOpening
  generalize opening.call = call at ho
  cases ho with
  | dns => cases hd
  | tcp => exact ⟨rfl, rfl, rfl⟩

end

lemma of_calls (hnew : new config = some s) {call : Call} {calls : List Call}
    (hfree : s.flows.lookup key = none) (hopened : (eventOf s call).after.flows.lookup key = some flow)
    (hlive : ∀ e ∈ eventsOf (eventOf s call).after calls, e.before.flows.lookup key ≠ none) :
    Lifetime config key (eventOf s call) flow (eventsOf (eventOf s call).after calls)
      (finalOf s (call :: calls)) :=
  ⟨⟨[], run_eventsOf hnew (call :: calls)⟩, hfree, hopened, hlive⟩

end Lifetime

namespace Sample

def source : TransportEndpoint := ⟨⟨10, 0, 0, 2⟩, 40000⟩

def destination : TransportEndpoint := ⟨⟨93, 184, 216, 34⟩, 443⟩

def key : FlowKey := ⟨source, destination⟩

def route : ProtectedRoute :=
  ⟨⟨.tunnel, "default"⟩, none, ⟨Vector.replicate 32 7⟩, .standard, none⟩

def input (packet : Bytes) : PacketEngineInput :=
  ⟨packet, ⟨none, 0⟩, some route, .connected⟩

def packetOn (key : FlowKey) (sequence acknowledgement : UInt32) (flags : TcpFlags)
    (payload : Bytes) : Bytes :=
  buildTcpPacket key.source.address key.destination.address key.source.port key.destination.port
    sequence acknowledgement flags 1024 payload

def segment (sequence acknowledgement : UInt32) (flags : TcpFlags) (payload : Bytes) : Call :=
  .process (input (packetOn key sequence acknowledgement flags payload))

def syn : TcpFlags := ⟨false, true, false, false, false⟩

def opening : Call := segment 7 0 syn []

def start : PacketProcessor := ⟨.default, ∅, ∅, ∅, 1, 1, true, none⟩

lemma new_default : new .default = some start := rfl

def flowId : FlowId := ⟨1⟩

def serverNext : UInt32 := initialSequence flowId + 1

def synSegment : TcpSegment :=
  ⟨source.address, destination.address, source.port, destination.port, 7, 0, 1024, syn, []⟩

def opened : FlowRecord :=
  PacketProcessor.tcpFlow .default flowId key synSegment ⟨none, 0⟩ route

def handshake : List Call :=
  [opening, .protectedStreamOpened flowId 0, segment 8 serverNext .ackOnly []]

end Sample

end OnionRoute.PacketEngine
