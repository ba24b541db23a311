import OnionRoute.PacketEngine.FlowView

/-! The processor projected on one flow. -/

namespace OnionRoute.PacketEngine

open Library

variable {target : DnsResponseTarget} {t : PacketProcessor} {queryId : UInt64}

namespace PacketProcessor

structure Sound (s : PacketProcessor) : Prop where
  key : ∀ {k : FlowKey} {f : FlowRecord}, s.flows.lookup k = some f → f.key = k
  ids : ∀ {id : FlowId} {k : FlowKey}, s.ids.lookup id = some k →
    ∃ f, s.flows.lookup k = some f ∧ f.flowId = id

def Named (s : PacketProcessor) : Prop :=
  ∀ key flow, s.flows.lookup key = some flow → s.ids.lookup flow.flowId = some key

variable {s : PacketProcessor}

lemma removeFlow_lookup (s : PacketProcessor) (key k : FlowKey) :
    (s.removeFlow key).flows.lookup k = if k = key then none else s.flows.lookup k := by
  unfold removeFlow
  cases h : s.flows.lookup key with
  | none =>
    by_cases hk : k = key
    · rw [hk, h, if_pos rfl]
    · rw [if_neg hk]
  | some flow =>
    by_cases hk : k = key
    · rw [hk, if_pos rfl]
      exact AList.lookup_erase key s.flows
    · rw [if_neg hk]
      exact Table.lookup_erase_of_ne s.flows hk

variable {k : FlowKey}

variable {key : FlowKey} {flow : FlowRecord}

lemma removeFlow_lookup_eq_some (h : (s.removeFlow key).flows.lookup k = some flow) :
    k ≠ key ∧ s.flows.lookup k = some flow := by
  rw [removeFlow_lookup] at h
  split_ifs at h with hk
  exact ⟨hk, h⟩

lemma removeFlow_ids (h : s.flows.lookup key = some flow) :
    (s.removeFlow key).ids = s.ids.erase flow.flowId := by
  simp only [removeFlow, h]

@[simp] lemma removeFlow_config (s : PacketProcessor) (key : FlowKey) :
    (s.removeFlow key).config = s.config := by
  unfold removeFlow
  split <;> rfl

lemma putFlow_lookup (s : PacketProcessor) (key k : FlowKey) (flow : FlowRecord) :
    (s.putFlow key flow).flows.lookup k =
      if k = key then (s.flows.lookup k).map fun _ => flow else s.flows.lookup k :=
  Table.lookup_modify s.flows key k _

lemma insertFlow_lookup (s : PacketProcessor) (flow : FlowRecord) (k : FlowKey) :
    (s.insertFlow flow).flows.lookup k = if k = flow.key then some flow else s.flows.lookup k := by
  by_cases hk : k = flow.key
  · rw [if_pos hk, hk]
    exact AList.lookup_insert s.flows
  · rw [if_neg hk]
    exact Table.lookup_insert_of_ne s.flows hk flow

namespace Sound

lemma of_tables (h : s.Sound)
    (hf : ∀ k, t.flows.lookup k = s.flows.lookup k) (hi : ∀ i, t.ids.lookup i = s.ids.lookup i) :
    t.Sound where
  key hk := h.key ((hf _).symm.trans hk)
  ids hi' := by
    obtain ⟨f, hl, he⟩ := h.ids ((hi _).symm.trans hi')
    exact ⟨f, (hf _).trans hl, he⟩

variable {flow : FlowRecord} (h : s.Sound)
include h

lemma flowOf {id : FlowId} (hf : s.flowOf id = some (key, flow)) :
    s.ids.lookup id = some key ∧ s.flows.lookup key = some flow ∧ flow.flowId = id ∧ flow.key = key
    := by
  unfold PacketProcessor.flowOf at hf
  cases hi : s.ids.lookup id with
  | none => simp [hi] at hf
  | some k =>
    obtain ⟨f, hl, he⟩ := h.ids hi
    simp only [hi, hl, Option.map_some, Option.some.injEq, Prod.mk.injEq] at hf
    obtain ⟨rfl, rfl⟩ := hf
    exact ⟨rfl, hl, he, h.key hl⟩

lemma flowOf_none {id : FlowId} (hf : s.flowOf id = none) : s.ids.lookup id = none := by
  unfold PacketProcessor.flowOf at hf
  cases hi : s.ids.lookup id with
  | none => rfl
  | some k =>
    obtain ⟨f, hl, _⟩ := h.ids hi
    simp [hi, hl] at hf

lemma flowOf_some {id : FlowId} (hi : s.ids.lookup id = some key)
    (hf : s.flows.lookup key = some flow) : s.flowOf id = some (key, flow) ∧ flow.flowId = id := by
  obtain ⟨f, hl, he⟩ := h.ids hi
  rw [hf] at hl
  obtain rfl := Option.some.inj hl
  exact ⟨by simp [PacketProcessor.flowOf, hi, hf], he⟩

lemma removeFlow (key : FlowKey) : (s.removeFlow key).Sound := by
  cases hf : s.flows.lookup key with
  | none =>
    have he : s.removeFlow key = s := by simp [PacketProcessor.removeFlow, hf]
    rwa [he]
  | some flow =>
    refine ⟨fun {k f} hk => ?_, fun {id k} hi => ?_⟩
    · exact h.key (removeFlow_lookup_eq_some hk).2
    · rw [removeFlow_ids hf] at hi
      obtain ⟨hne, hi⟩ := Table.lookup_erase_eq_some hi
      obtain ⟨f, hl, he⟩ := h.ids hi
      refine ⟨f, ?_, he⟩
      rw [removeFlow_lookup, if_neg, hl]
      rintro rfl
      rw [hf] at hl
      obtain rfl := Option.some.inj hl
      exact hne he.symm

lemma mapFlows {g : FlowRecord → FlowRecord} (hg : ∀ f, FlowRecord.Same f (g f)) :
    Sound { s with flows := s.flows.mapValues g } where
  key {k f} hk := by
    simp only [Table.lookup_mapValues, Option.map_eq_some_iff] at hk
    obtain ⟨f', hl, rfl⟩ := hk
    exact (hg f').key.trans (h.key hl)
  ids {id k} hi := by
    obtain ⟨f, hl, he⟩ := h.ids hi
    exact ⟨g f, by simp [hl], (hg f).flowId.trans he⟩

lemma putFlow {next : FlowRecord} (hf : s.flows.lookup key = some flow)
    (hs : FlowRecord.Same flow next) :
    (s.putFlow key next).Sound where
  key {k f} hk := by
    rw [putFlow_lookup] at hk
    split_ifs at hk with hkey
    · rw [hkey, hf] at hk
      obtain rfl := Option.some.inj hk
      exact hs.key.trans ((h.key hf).trans hkey.symm)
    · exact h.key hk
  ids {id k} hi := by
    obtain ⟨f, hl, he⟩ := h.ids hi
    by_cases hkey : k = key
    · subst hkey
      rw [hf] at hl
      obtain rfl := Option.some.inj hl
      exact ⟨next, by rw [putFlow_lookup, if_pos rfl, hf]; rfl, hs.flowId.trans he⟩
    · exact ⟨f, by rw [putFlow_lookup, if_neg hkey, hl], he⟩

lemma insertFlow (hf : s.flows.lookup flow.key = none) :
    (s.insertFlow flow).Sound where
  key {k f} hk := by
    rw [insertFlow_lookup] at hk
    split_ifs at hk with hkey
    · obtain rfl := Option.some.inj hk
      exact hkey.symm
    · exact h.key hk
  ids {id k} hi := by
    by_cases hid : id = flow.flowId
    · subst hid
      have he : flow.key = k := Option.some.inj ((AList.lookup_insert s.ids).symm.trans hi)
      exact ⟨flow, by rw [insertFlow_lookup, if_pos he.symm], rfl⟩
    · have hi' : s.ids.lookup id = some k :=
        (Table.lookup_insert_of_ne s.ids hid flow.key).symm.trans hi
      obtain ⟨f, hl, he⟩ := h.ids hi'
      refine ⟨f, ?_, he⟩
      rw [insertFlow_lookup, if_neg, hl]
      rintro rfl
      rw [hf] at hl
      cases hl

end Sound

lemma removeFlow_pendingDns (h : (s.removeFlow key).pendingDns.lookup queryId = some target) :
    s.pendingDns.lookup queryId = some target := by
  simp only [PacketProcessor.removeFlow] at h
  split at h
  · exact h
  · exact (Table.lookup_retain_eq_some.mp h).1

lemma failEach_invariant {I : PacketProcessor → Prop}
    (hremove : ∀ {u} key, I u → I (u.removeFlow key)) (h : I s)
    (failures : List (FlowId × BlockReason)) : I (s.failEach failures).1 := by
  induction failures generalizing s with
  | nil => exact h
  | cons head rest ih =>
    refine ih ?_
    split
    · exact h
    · exact hremove _ h

def malformedSyn (segment : TcpSegment) : Bool :=
  segment.flags.syn && (segment.flags.fin || segment.flags.rst || !segment.payload.isEmpty)

def expired (s : PacketProcessor) (now : ℕ) : List (FlowId × BlockReason) :=
  s.flows.values.filterMap fun flow =>
    (flow.tickExpiry s.config now).map fun reason => (flow.flowId, reason)

def allIds (s : PacketProcessor) (reason : BlockReason) : List (FlowId × BlockReason) :=
  s.ids.keys.map fun flowId => (flowId, reason)

def validAnswer (wire : Bytes) : Bool :=
  !(wire.isEmpty || wire.length > maxDnsMessageBytes)

def failures (s : PacketProcessor) : Call → List (FlowId × BlockReason)
  | .process input =>
    match classify input.packet with
    | .ok (.tcp segment) =>
      match s.flows.lookup segment.key with
      | none => []
      | some flow =>
        if malformedSyn segment then [(flow.flowId, .malformedPacket)]
        else if segment.flags.rst || protectedState input.connectionState then []
        else [(flow.flowId, .protectedPathUnavailable)]
    | _ => []
  | .failFlow flowId reason => [(flowId, reason)]
  | .completeDns queryId wire _ =>
    match s.pendingDns.lookup queryId with
    | some (.tcp flowId) => if validAnswer wire then [] else [(flowId, .downstreamFailure)]
    | _ => []
  | .tick now => if s.suspendedAtMs.isSome then [] else s.expired now
  | .resume _ healthy =>
    if s.suspendedAtMs.isSome && !healthy then s.allIds .protectedPathUnavailable else []
  | .shutdown => s.allIds .shutdown
  | .failAll reason => s.allIds reason
  | _ => []

def failuresOf (s : PacketProcessor) (key : FlowKey) (flow : FlowRecord)
    (failures : List (FlowId × BlockReason)) : List FlowEvent :=
  if s.ids.lookup flow.flowId = some key then
    ((failures.find? fun p => p.1 = flow.flowId).map fun p => FlowEvent.failed p.2).toList
  else []

def callback (s : PacketProcessor) (key : FlowKey) (flowId : FlowId) (event : FlowEvent) :
    List FlowEvent :=
  if s.ids.lookup flowId = some key then [event] else []

def directed (s : PacketProcessor) (key : FlowKey) : Call → List FlowEvent
  | .process input =>
    match classify input.packet with
    | .ok (.tcp segment) =>
      if segment.key ≠ key || malformedSyn segment then []
      else if segment.flags.rst then [.reset]
      else if !protectedState input.connectionState then []
      else [.segment s.pendingDns s.nextDnsId segment input.platform.monotonicMs]
    | _ => []
  | .protectedStreamOpened flowId now => s.callback key flowId (.opened now)
  | .acknowledgeForwarded flowId bytes now => s.callback key flowId (.acknowledged bytes now)
  | .protectedPayload flowId payload now => s.callback key flowId (.payload payload now)
  | .protectedStreamClosed flowId now => s.callback key flowId (.fin now)
  | .completeDns queryId wire now =>
    match s.pendingDns.lookup queryId with
    | some (.tcp flowId) =>
      if validAnswer wire then s.callback key flowId (.payload (framed wire) now) else []
    | _ => []
  | .tick now => if s.suspendedAtMs.isSome then [] else [.tick now]
  | .resume now healthy =>
    match s.suspendedAtMs with
    | some suspendedAt => if healthy then [.postponed (now - suspendedAt)] else []
    | none => []
  | _ => []

def deliveries (s : PacketProcessor) (key : FlowKey) (flow : FlowRecord) (call : Call) :
    List FlowEvent :=
  s.directed key call ++ s.failuresOf key flow (s.failures call)

lemma failFlow_of_lookup (h : s.Sound) {id : FlowId} (hi : s.ids.lookup id = some key)
    (hf : s.flows.lookup key = some flow) (reason : BlockReason) :
    s.failFlow id reason = (s.removeFlow key, flow.failActions reason) := by
  obtain ⟨ho, he⟩ := h.flowOf_some hi hf
  subst he
  simp only [failFlow, ho]
  rfl

lemma failFlow_of_none {id : FlowId} (h : s.ids.lookup id = none) (reason : BlockReason) :
    s.failFlow id reason = (s, []) := by
  simp [failFlow, flowOf, h]

lemma failEach_lookup_none (hf : s.flows.lookup key = none)
    (failures : List (FlowId × BlockReason)) :
    (s.failEach failures).1.flows.lookup key = none :=
  failEach_invariant (I := fun u => u.flows.lookup key = none)
    (fun k hu => by rw [removeFlow_lookup, hu, ite_self]) hf failures

variable {g : FlowRecord}

section Failures

variable {key : FlowKey} {flow : FlowRecord} {id : FlowId} {reason : BlockReason}
  {rest : List (FlowId × BlockReason)}

lemma failuresOf_of_ne (h : s.ids.lookup flow.flowId ≠ some key) :
    s.failuresOf key flow rest = [] :=
  if_neg h

lemma failuresOf_nil (s : PacketProcessor) (key : FlowKey) (flow : FlowRecord) :
    s.failuresOf key flow [] = [] := by
  simp [failuresOf]

lemma failuresOf_cons_of_ne (h : id ≠ flow.flowId) :
    s.failuresOf key flow ((id, reason) :: rest) = s.failuresOf key flow rest := by
  simp [failuresOf, h]

lemma failuresOf_cons_self (h : s.ids.lookup flow.flowId = some key) :
    s.failuresOf key flow ((flow.flowId, reason) :: rest) = [.failed reason] := by
  simp [failuresOf, h]

lemma failuresOf_congr (hg : g.flowId = flow.flowId)
    (h : t.ids.lookup flow.flowId = s.ids.lookup flow.flowId) :
    t.failuresOf key g rest = s.failuresOf key flow rest := by
  unfold failuresOf
  rw [hg, h]

lemma failuresOf_cons_skip (h : s.ids.lookup id ≠ some key) :
    s.failuresOf key flow ((id, reason) :: rest) = s.failuresOf key flow rest := by
  by_cases hid : id = flow.flowId
  · subst hid
    rw [failuresOf_of_ne h, failuresOf_of_ne h]
  · exact failuresOf_cons_of_ne hid

lemma failuresOf_removeFlow (hk : s.flows.lookup k = some g) (hi : s.ids.lookup g.flowId = some k)
    (hne : k ≠ key) : (s.removeFlow k).failuresOf key flow rest = s.failuresOf key flow rest := by
  by_cases hid : g.flowId = flow.flowId
  · rw [failuresOf_of_ne, failuresOf_of_ne]
    · rw [← hid, hi]
      exact fun h => hne (Option.some.inj h)
    · rw [removeFlow_ids hk, hid, AList.lookup_erase]
      exact Option.some_ne_none key |>.symm
  · refine failuresOf_congr rfl ?_
    rw [removeFlow_ids hk]
    exact Table.lookup_erase_of_ne s.ids (Ne.symm hid)

lemma failuresOf_cases (s : PacketProcessor) (key : FlowKey) (flow : FlowRecord)
    (failures : List (FlowId × BlockReason)) :
    s.failuresOf key flow failures = [] ∨
      ∃ reason, s.failuresOf key flow failures = [.failed reason] ∧
        s.ids.lookup flow.flowId = some key ∧ (flow.flowId, reason) ∈ failures := by
  unfold failuresOf
  split_ifs with h
  · cases hf : failures.find? fun p => p.1 = flow.flowId with
    | none => exact .inl rfl
    | some p =>
      have he : p.1 = flow.flowId := by simpa using List.find?_some hf
      refine .inr ⟨p.2, rfl, h, ?_⟩
      rw [← he]
      exact List.mem_of_find?_eq_some hf
  · exact .inl rfl

end Failures

lemma failEach_projects (h : s.Sound) (failures : List (FlowId × BlockReason)) :
    (∀ {key flow}, s.flows.lookup key = some flow →
      (s.failEach failures).1.flows.lookup key =
          (flow.run s.config (s.failuresOf key flow failures)).1 ∧
        (flow.run s.config (s.failuresOf key flow failures)).2 ⊆ (s.failEach failures).2) ∧
    ∀ {a}, a ∈ (s.failEach failures).2 → ∃ key flow, s.flows.lookup key = some flow ∧
      a ∈ (flow.run s.config (s.failuresOf key flow failures)).2 := by
  induction failures generalizing s with
  | nil =>
    refine ⟨fun {key flow} hf => ?_, fun ha => absurd ha List.not_mem_nil⟩
    rw [failuresOf_nil]
    exact ⟨hf, List.nil_subset _⟩
  | cons head rest ih =>
    obtain ⟨id, reason⟩ := head
    simp only [failEach]
    cases ho : s.flowOf id with
    | none =>
      have hi := h.flowOf_none ho
      have hskip : ∀ key flow, s.failuresOf key flow ((id, reason) :: rest) =
          s.failuresOf key flow rest := fun key flow => failuresOf_cons_skip (by simp [hi])
      simp only [failFlow_of_none hi, hskip]
      exact ih h
    | some found =>
      obtain ⟨k, g⟩ := found
      obtain ⟨hi, hk, rfl, _⟩ := h.flowOf ho
      rw [failFlow_of_lookup h hi hk]
      obtain ⟨hrec, hsource⟩ := ih (h.removeFlow k)
      have hskip : ∀ {key flow}, k ≠ key → s.failuresOf key flow ((g.flowId, reason) :: rest) =
          (s.removeFlow k).failuresOf key flow rest := fun hne =>
        (failuresOf_cons_skip (by rw [hi]; simpa using hne)).trans
          (failuresOf_removeFlow hk hi hne).symm
      refine ⟨fun {key flow} hf => ?_, fun {a} ha => ?_⟩
      · by_cases hkey : k = key
        · subst hkey
          obtain rfl := Option.some.inj (hf.symm.trans hk)
          rw [failuresOf_cons_self hi]
          refine ⟨failEach_lookup_none ?_ rest, List.subset_append_left _ _⟩
          rw [removeFlow_lookup, if_pos rfl]
        · have hl : (s.removeFlow k).flows.lookup key = some flow := by
            rw [removeFlow_lookup, if_neg (Ne.symm hkey), hf]
          rw [hskip hkey, ← s.removeFlow_config k]
          exact ⟨(hrec hl).1, fun a ha => List.mem_append_right _ ((hrec hl).2 ha)⟩
      · rcases List.mem_append.mp ha with ha | ha
        · exact ⟨k, g, hk, by rw [failuresOf_cons_self hi]; exact ha⟩
        · obtain ⟨key, flow, hf, hr⟩ := hsource ha
          obtain ⟨hkey, hf⟩ := removeFlow_lookup_eq_some hf
          exact ⟨key, flow, hf, by rwa [hskip (Ne.symm hkey), ← s.removeFlow_config k]⟩

def own (s : PacketProcessor) : Call → List EngineAction
  | .process input =>
    match classify input.packet with
    | .ok (.tcp segment) =>
      if (s.flows.lookup segment.key).isSome then [] else (s.processTcp segment input).2
    | _ => (s.process input).2
  | .protectedStreamOpened flowId _ =>
    if (s.ids.lookup flowId).isSome then [] else [.recordDiagnostic .unknownFlow (some flowId)]
  | .protectedPayload flowId _ _ =>
    if (s.ids.lookup flowId).isSome then [] else [.recordDiagnostic .unknownFlow (some flowId)]
  | .completeDns queryId wire now =>
    match s.pendingDns.lookup queryId with
    | some (.udp _ _) => (s.completeDns queryId wire now).2
    | _ => []
  | .resume _ healthy =>
    if s.suspendedAtMs.isSome && !healthy then [.recordDiagnostic .resumePathInvalid none] else []
  | .shutdown => [.recordDiagnostic .shutdown none]
  | _ => []

structure Explained (s : PacketProcessor) (call : Call) : Prop where
  lookup : ∀ {key flow}, s.flows.lookup key = some flow →
    (s.perform call).1.flows.lookup key = (flow.run s.config (s.deliveries key flow call)).1
  emits : ∀ {key flow}, s.flows.lookup key = some flow →
    (flow.run s.config (s.deliveries key flow call)).2 ⊆ (s.perform call).2
  sources : ∀ {a}, a ∈ (s.perform call).2 → a ∈ s.own call ∨ ∃ key flow,
    s.flows.lookup key = some flow ∧ a ∈ (flow.run s.config (s.deliveries key flow call)).2

section Explained

variable {call : Call}

lemma explained_of_idle (hd : ∀ key flow, s.flows.lookup key = some flow →
      s.deliveries key flow call = [])
    (hl : ∀ key flow, s.flows.lookup key = some flow →
      (s.perform call).1.flows.lookup key = some flow)
    (ho : (s.perform call).2 ⊆ s.own call) : s.Explained call where
  lookup {key flow} hf := by rw [hd key flow hf, hl key flow hf]; rfl
  emits {key flow} hf := by rw [hd key flow hf]; exact List.nil_subset _
  sources ha := .inl (ho ha)

lemma explained_of_failEach (h : s.Sound) (hc : t.config = s.config)
    (hf : ∀ k, t.flows.lookup k = s.flows.lookup k) (hi : ∀ i, t.ids.lookup i = s.ids.lookup i)
    (hd : ∀ key, s.directed key call = [])
    (h1 : (s.perform call).1 = (t.failEach (s.failures call)).1)
    (h2 : (s.perform call).2 = s.own call ++ (t.failEach (s.failures call)).2) :
    s.Explained call := by
  obtain ⟨hrec, hsource⟩ := failEach_projects (h.of_tables hf hi) (s.failures call)
  have hdel : ∀ key flow, s.deliveries key flow call =
      t.failuresOf key flow (s.failures call) := by
    intro key flow
    rw [deliveries, hd, List.nil_append]
    exact failuresOf_congr rfl (hi _).symm
  refine ⟨fun {key flow} hk => ?_, fun {key flow} hk => ?_, fun {a} ha => ?_⟩
  · rw [h1, hdel, ← hc]
    exact (hrec ((hf key).trans hk)).1
  · rw [h2, hdel, ← hc]
    exact fun a ha => List.mem_append_right _ ((hrec ((hf key).trans hk)).2 ha)
  · rw [h2] at ha
    rcases List.mem_append.mp ha with ha | ha
    · exact .inl ha
    · obtain ⟨key, flow, hk, hr⟩ := hsource ha
      refine .inr ⟨key, flow, (hf key).symm.trans hk, ?_⟩
      rwa [hdel, ← hc]

lemma explained_of_event (event : FlowEvent)
    (hk : s.flows.lookup k = some g)
    (hd : ∀ key, s.directed key call = if key = k then [event] else [])
    (hn : s.failures call = [])
    (h1 : ∀ key, (s.perform call).1.flows.lookup key =
      if key = k then (g.step s.config event).1 else s.flows.lookup key)
    (h2 : (s.perform call).2 = (g.step s.config event).2) : s.Explained call := by
  have hdel : ∀ key flow, s.deliveries key flow call = if key = k then [event] else [] := by
    intro key flow
    rw [deliveries, hd, hn]
    simp [failuresOf]
  refine ⟨fun {key flow} hf => ?_, fun {key flow} hf => ?_, fun {a} ha => ?_⟩
  · rw [h1, hdel]
    split_ifs with he
    · rw [he, hk] at hf
      obtain rfl := Option.some.inj hf
      rw [FlowRecord.run_single]
    · exact hf
  · rw [h2, hdel]
    split_ifs with he
    · rw [he, hk] at hf
      obtain rfl := Option.some.inj hf
      rw [FlowRecord.run_single]
      exact List.Subset.refl _
    · exact List.nil_subset _
  · rw [h2] at ha
    exact .inr ⟨k, g, hk, by rwa [hdel, if_pos rfl, FlowRecord.run_single]⟩

end Explained

end PacketProcessor

end OnionRoute.PacketEngine
