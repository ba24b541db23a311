import OnionRoute.PacketEngine.Engine
import OnionRoute.PacketEngine.Segment

/-! One flow seen alone: the events that reach it, and what each does to its record. -/

namespace OnionRoute.PacketEngine

open Library

inductive FlowEvent
  | segment (pendingDns : PendingDns) (nextDnsId : UInt64) (segment : TcpSegment) (now : ℕ)
  | reset
  | opened (now : ℕ)
  | acknowledged (bytes now : ℕ)
  | payload (payload : Bytes) (now : ℕ)
  | fin (now : ℕ)
  | failed (reason : BlockReason)
  | tick (now : ℕ)
  | postponed (slept : ℕ)

namespace FlowRecord

def step (config : EngineConfig) (flow : FlowRecord) :
    FlowEvent → Option FlowRecord × List EngineAction
  | .segment pendingDns nextDnsId segment now =>
    let p := flow.receiveSegment config pendingDns nextDnsId segment now
    (if p.remove then none else some p.flow, p.actions)
  | .reset => (none, [flow.close .both])
  | .opened now => (some (flow.opened config now).1, (flow.opened config now).2)
  | .acknowledged bytes now =>
    let (next, actions) := flow.acknowledged config bytes now
    (if next.finished then none else some next, actions)
  | .payload payload now =>
    if payload.isEmpty then (some flow, [])
    else if !flow.canAccept payload.length then (none, flow.failActions .backpressure)
    else (some (flow.sendPayload config payload now).1, (flow.sendPayload config payload now).2)
  | .fin now =>
    if !flow.writable then (none, flow.failActions .downstreamFailure)
    else (some (flow.sendFin config now).1, (flow.sendFin config now).2)
  | .failed reason => (none, flow.failActions reason)
  | .tick now => (some (flow.afterTick config now), flow.tickActions config now)
  | .postponed slept => (some (flow.postpone slept), [])

def run (config : EngineConfig) : FlowRecord → List FlowEvent →
    Option FlowRecord × List EngineAction
  | flow, [] => (some flow, [])
  | flow, e :: es =>
    match flow.step config e with
    | (none, actions) => (none, actions)
    | (some next, actions) => ((run config next es).1, actions ++ (run config next es).2)

structure Same (f g : FlowRecord) : Prop where
  key : g.key = f.key
  flowId : g.flowId = f.flowId
  limits : g.snapshot.limits = f.snapshot.limits
  dnsTcp : g.dnsTcp = f.dnsTcp

lemma Same.refl (f : FlowRecord) : Same f f := ⟨rfl, rfl, rfl, rfl⟩

lemma Same.trans {f g h : FlowRecord} (a : Same f g) (b : Same g h) : Same f h :=
  ⟨b.key.trans a.key, b.flowId.trans a.flowId, b.limits.trans a.limits, b.dnsTcp.trans a.dnsTcp⟩

lemma establish_same (flow : FlowRecord) : Same flow flow.establish := by
  unfold establish
  split_ifs <;> exact ⟨rfl, rfl, rfl, rfl⟩

end FlowRecord

variable {segment : TcpSegment} {p q : SegmentProgress}

lemma SegmentProgress.Edit.same {config : EngineConfig} (h : Edit config segment p q) :
    FlowRecord.Same p.flow q.flow := by
  cases h with
  | establish => exact FlowRecord.establish_same _
  | _ => exact ⟨rfl, rfl, rfl, rfl⟩

lemma SegmentProgress.edits_same {config : EngineConfig}
    (h : Relation.ReflTransGen (Edit config segment) p q) : FlowRecord.Same p.flow q.flow := by
  induction h with
  | refl => exact .refl _
  | tail _ hlast ih => exact ih.trans hlast.same

namespace FlowRecord

variable (config : EngineConfig) (flow : FlowRecord) {next : FlowRecord} {event : FlowEvent}
  {events : List FlowEvent}

lemma receiveSegment_same (pendingDns : PendingDns) (nextDnsId : UInt64) (segment : TcpSegment)
    (now : ℕ) : Same flow (flow.receiveSegment config pendingDns nextDnsId segment now).flow := by
  have htouch : Same flow (flow.touch now) := ⟨rfl, rfl, rfl, rfl⟩
  exact htouch.trans (SegmentProgress.edits_same
    (receiveSegment_edits config pendingDns nextDnsId segment now flow))

lemma tickOutcome_retransmit {now : ℕ} {packet : Bytes}
    (h : flow.tickOutcome config now = .retransmit next packet) :
    ∃ o, flow.outstandingToApplication = some o ∧
      next = { flow with outstandingToApplication := some (o.renew now) } ∧
      packet = responseFromValues flow o.sequence o.acknowledgement o.flags config.receiveWindow
        o.payload := by
  unfold tickOutcome at h
  cases hd : flow.deadline config now with
  | some reason => simp [hd] at h
  | none =>
    cases ho : flow.outstandingToApplication with
    | none => simp [hd, ho] at h
    | some o =>
      simp only [hd, ho] at h
      split_ifs at h
      obtain ⟨rfl, rfl⟩ := TickOutcome.retransmit.inj h
      exact ⟨o, rfl, rfl, rfl⟩

lemma afterTick_cases (now : ℕ) :
    (flow.afterTick config now = flow ∧ flow.tickActions config now = []) ∨
      ∃ o, flow.outstandingToApplication = some o ∧
        flow.afterTick config now = { flow with outstandingToApplication := some (o.renew now) } ∧
        flow.tickActions config now = [flow.diagnostic .retransmission,
          .sendSyntheticResponse (responseFromValues flow o.sequence o.acknowledgement o.flags
            config.receiveWindow o.payload)] := by
  unfold afterTick tickActions
  cases h : flow.tickOutcome config now with
  | quiet => exact .inl ⟨rfl, rfl⟩
  | expired reason => exact .inl ⟨rfl, rfl⟩
  | retransmit next packet =>
    obtain ⟨o, ho, hn, hp⟩ := flow.tickOutcome_retransmit config h
    subst hn hp
    exact .inr ⟨o, ho, rfl, rfl⟩

lemma afterTick_same (now : ℕ) : Same flow (flow.afterTick config now) := by
  obtain ⟨hf, _⟩ | ⟨o, _, hf, _⟩ := flow.afterTick_cases config now <;> rw [hf] <;>
    exact ⟨rfl, rfl, rfl, rfl⟩

lemma opened_same (now : ℕ) : Same flow (flow.opened config now).1 := by
  unfold opened
  dsimp only
  split_ifs <;> exact ⟨rfl, rfl, rfl, rfl⟩

inductive Stepping (config : EngineConfig) (flow : FlowRecord) :
    FlowEvent → Option FlowRecord → List EngineAction → Prop
  | received (pendingDns : PendingDns) (nextDnsId : UInt64) (segment : TcpSegment) (now : ℕ)
      (h : (flow.receiveSegment config pendingDns nextDnsId segment now).remove = false) :
      Stepping config flow (.segment pendingDns nextDnsId segment now)
        (some (flow.receiveSegment config pendingDns nextDnsId segment now).flow)
        (flow.receiveSegment config pendingDns nextDnsId segment now).actions
  | removed (pendingDns : PendingDns) (nextDnsId : UInt64) (segment : TcpSegment) (now : ℕ)
      (h : (flow.receiveSegment config pendingDns nextDnsId segment now).remove = true) :
      Stepping config flow (.segment pendingDns nextDnsId segment now) none
        (flow.receiveSegment config pendingDns nextDnsId segment now).actions
  | reset : Stepping config flow .reset none [flow.close .both]
  | known (now : ℕ) (h : flow.state ≠ .connecting) : Stepping config flow (.opened now) (some flow) []
  | opened (now : ℕ) (h : flow.state = .connecting) :
      Stepping config flow (.opened now) (some ((flow.withState .synAckSent).touch now))
        [((flow.withState .synAckSent).touch now).synAckAction config]
  | acknowledged (bytes now : ℕ) (h : flow.finished = false) :
      Stepping config flow (.acknowledged bytes now) (some (flow.acknowledged config bytes now).1)
        [(flow.acknowledged config bytes now).1.ackAction config]
  | finished (bytes now : ℕ) (h : flow.finished = true) :
      Stepping config flow (.acknowledged bytes now) none
        [(flow.acknowledged config bytes now).1.ackAction config]
  | empty (now : ℕ) : Stepping config flow (.payload [] now) (some flow) []
  | sent (payload : Bytes) (now : ℕ) (hp : payload ≠ [])
      (h : flow.canAccept payload.length = true) :
      Stepping config flow (.payload payload now) (some (flow.sendPayload config payload now).1)
        (flow.sendPayload config payload now).2
  | refused (payload : Bytes) (now : ℕ) (hp : payload ≠ [])
      (h : flow.canAccept payload.length = false) :
      Stepping config flow (.payload payload now) none (flow.failActions .backpressure)
  | closed (now : ℕ) (h : flow.writable = true) :
      Stepping config flow (.fin now) (some (flow.sendFin config now).1) (flow.sendFin config now).2
  | unclosed (now : ℕ) (h : flow.writable = false) :
      Stepping config flow (.fin now) none (flow.failActions .downstreamFailure)
  | failed (reason : BlockReason) :
      Stepping config flow (.failed reason) none (flow.failActions reason)
  | quiet (now : ℕ) : Stepping config flow (.tick now) (some flow) []
  | repeated (now : ℕ) {o : OutstandingSegment} (ho : flow.outstandingToApplication = some o) :
      Stepping config flow (.tick now)
        (some { flow with outstandingToApplication := some (o.renew now) })
        [flow.diagnostic .retransmission, .sendSyntheticResponse (responseFromValues flow o.sequence
          o.acknowledgement o.flags config.receiveWindow o.payload)]
  | postponed (slept : ℕ) :
      Stepping config flow (.postponed slept) (some (flow.postpone slept)) []

lemma step_cases (event : FlowEvent) :
    Stepping config flow event (flow.step config event).1 (flow.step config event).2 := by
  cases event with
  | segment pendingDns nextDnsId segment now =>
    simp only [step]
    split_ifs with h
    · exact .removed _ _ _ _ h
    · exact .received _ _ _ _ (Bool.eq_false_iff.mpr h)
  | reset => exact .reset
  | opened now =>
    simp only [step, FlowRecord.opened]
    split_ifs with h
    · exact .known now h
    · exact .opened now (not_not.mp h)
  | acknowledged bytes now =>
    simp only [step]
    split_ifs with h
    · exact .finished bytes now h
    · exact .acknowledged bytes now (Bool.eq_false_iff.mpr h)
  | payload payload now =>
    simp only [step]
    split_ifs with hp h
    · rw [List.isEmpty_iff.mp hp]
      exact .empty now
    · exact .refused payload now (fun he => hp (List.isEmpty_iff.mpr he)) (by simpa using h)
    · exact .sent payload now (fun he => hp (List.isEmpty_iff.mpr he)) (by simpa using h)
  | fin now =>
    simp only [step]
    split_ifs with h
    · exact .unclosed now (by simpa using h)
    · exact .closed now (by simpa using h)
  | failed reason => exact .failed reason
  | tick now =>
    simp only [step]
    obtain ⟨hf, ha⟩ | ⟨o, ho, hf, ha⟩ := flow.afterTick_cases config now
    · rw [hf, ha]
      exact .quiet now
    · rw [hf, ha]
      exact .repeated now ho
  | postponed slept => exact .postponed slept

variable {config flow}

lemma step_some (h : (flow.step config event).1 = some next) :
    Stepping config flow event (some next) (flow.step config event).2 := by
  rw [← h]
  exact step_cases config flow event

variable (config flow)

lemma step_same (h : (flow.step config event).1 = some next) : Same flow next := by
  have hstep := step_some h
  generalize (flow.step config event).2 = actions at hstep
  cases hstep with
  | received => exact receiveSegment_same config flow _ _ _ _
  | _ => exact ⟨rfl, rfl, rfl, rfl⟩

@[simp] lemma run_nil : flow.run config [] = (some flow, []) := rfl

@[simp] lemma run_single (event : FlowEvent) : flow.run config [event] = flow.step config event := by
  simp only [run]
  split <;> simp_all

lemma run_invariant {P : FlowRecord → Prop}
    (hstep : ∀ f e g, e ∈ events → P f → (f.step config e).1 = some g → P g) (hf : P flow)
    (h : (flow.run config events).1 = some next) : P next := by
  induction events generalizing flow with
  | nil =>
    obtain rfl := Option.some.inj h
    exact hf
  | cons e es ih =>
    simp only [run] at h
    cases hs : flow.step config e with
    | mk r actions =>
      cases r with
      | none => simp [hs] at h
      | some g =>
        simp only [hs] at h
        exact ih g (fun f e g he => hstep f e g (List.mem_cons_of_mem _ he))
          (hstep flow e g List.mem_cons_self hf (by rw [hs])) h

lemma mem_run_actions {a : EngineAction}
    (h : a ∈ (flow.run config events).2) : ∃ past event rest g, events = past ++ event :: rest ∧
      (flow.run config past).1 = some g ∧ a ∈ (g.step config event).2 := by
  induction events generalizing flow with
  | nil => simp at h
  | cons e es ih =>
    simp only [run] at h
    cases hs : flow.step config e with
    | mk r actions =>
      cases r with
      | none =>
        simp only [hs] at h
        exact ⟨[], e, es, flow, rfl, rfl, by rw [hs]; exact h⟩
      | some g =>
        simp only [hs] at h
        rcases List.mem_append.mp h with h | h
        · exact ⟨[], e, es, flow, rfl, rfl, by rw [hs]; exact h⟩
        · obtain ⟨past, event, rest, g', rfl, hg, ha⟩ := ih g h
          refine ⟨e :: past, event, rest, g', rfl, ?_, ha⟩
          simpa only [run, hs] using hg

lemma run_same (h : (flow.run config events).1 = some next) : Same flow next :=
  run_invariant config flow (P := Same flow)
    (fun f _ _ _ hf hg => hf.trans (step_same config f hg)) (.refl flow) h

lemma step_client_of_not_segment (config : EngineConfig) {flow : FlowRecord}
    (h : ∀ pendingDns nextDnsId segment now, event ≠ .segment pendingDns nextDnsId segment now)
    (hn : (flow.step config event).1 = some next) :
    next.clientNext = flow.clientNext ∧ next.finAccepted = flow.finAccepted ∧
      next.dnsBuffer = flow.dnsBuffer := by
  have hstep := step_some hn
  generalize (flow.step config event).2 = actions at hstep
  cases hstep with
  | received => exact absurd rfl (h _ _ _ _)
  | opened now hs => exact ⟨rfl, by simp [finAccepted, withState, touch, hs], rfl⟩
  | closed now hw =>
    -- only an open half can be written to, so the peer's close finds one of two states
    have hs : flow.state = .established ∨ flow.state = .halfClosedLocal := by
      simp only [writable, Bool.and_eq_true, Bool.or_eq_true, decide_eq_true_eq] at hw
      exact hw.2
    refine ⟨rfl, ?_, rfl⟩
    rcases hs with hs | hs <;> simp [finAccepted, sendFin, touch, hs]
  | _ => exact ⟨rfl, rfl, rfl⟩

structure ServerKept (f g : FlowRecord) : Prop where
  serverNext : g.serverNext = f.serverNext
  outstanding : g.outstandingToApplication = f.outstandingToApplication ∨
    g.outstandingToApplication = none

lemma receiveSegment_server (pendingDns : PendingDns) (nextDnsId : UInt64) (segment : TcpSegment)
    (now : ℕ) :
    ServerKept flow (flow.receiveSegment config pendingDns nextDnsId segment now).flow := by
  refine receiveSegment_invariant (I := fun p => ServerKept flow p.flow) (fun {p q} h he => ?_)
    ⟨rfl, .inl rfl⟩
  cases he with
  | establish hs =>
    rw [establish, if_pos hs]
    exact ⟨h.serverNext, h.outstanding⟩
  | clear => exact ⟨h.serverNext, .inr rfl⟩
  | _ => exact ⟨h.serverNext, h.outstanding⟩

lemma step_server (config : EngineConfig) {flow : FlowRecord}
    (hp : ∀ payload now, event ≠ .payload payload now) (hf : ∀ now, event ≠ .fin now)
    (h : (flow.step config event).1 = some next) :
    next.serverNext = flow.serverNext ∧ ∀ o, next.outstandingToApplication = some o →
      ∃ o', flow.outstandingToApplication = some o' ∧ o.sequence = o'.sequence ∧
        o.payload = o'.payload := by
  have hkept : ∀ g, ServerKept flow g → g.serverNext = flow.serverNext ∧
      ∀ o, g.outstandingToApplication = some o → ∃ o', flow.outstandingToApplication = some o' ∧
        o.sequence = o'.sequence ∧ o.payload = o'.payload := by
    intro g hg
    refine ⟨hg.serverNext, fun o ho => ?_⟩
    rcases hg.outstanding with he | he
    · exact ⟨o, by rw [← he, ho], rfl, rfl⟩
    · rw [he] at ho
      cases ho
  have hstep := step_some h
  generalize (flow.step config event).2 = actions at hstep
  cases hstep with
  | received => exact hkept _ (receiveSegment_server config flow _ _ _ _)
  | sent payload now => exact absurd rfl (hp payload now)
  | empty now => exact absurd rfl (hp [] now)
  | closed now => exact absurd rfl (hf now)
  | repeated now ho =>
    refine ⟨rfl, fun o' ho' => ⟨_, ho, ?_⟩⟩
    obtain rfl := Option.some.inj ho'
    exact ⟨rfl, rfl⟩
  | _ => exact hkept _ ⟨rfl, .inl rfl⟩

end FlowRecord

end OnionRoute.PacketEngine
