import OnionRoute.PacketEngine.Runs

/-! The kinds of action an event of a flow can emit. -/

namespace OnionRoute.PacketEngine

open Library

inductive Emitted (flow : FlowRecord) (sends : Bytes → Prop) : EngineAction → Prop
  | diagnostic (code : DiagnosticCode) : Emitted flow sends (flow.diagnostic code)
  | blocked (reason : BlockReason) : Emitted flow sends (flow.blocked reason)
  | close (direction : CloseDirection) : Emitted flow sends (flow.close direction)
  | forward (payload : Bytes) : Emitted flow sends (.forwardPayload flow.flowId payload)
  | resolve (query : DnsQuery) : Emitted flow sends (.resolveDns query (.tcp flow.flowId))
  | packet (sequence acknowledgement : UInt32) (flags : TcpFlags) (window : UInt16)
      {payload : Bytes} (h : sends payload) : Emitted flow sends (.sendSyntheticResponse
        (responseFromValues flow sequence acknowledgement flags window payload))

variable {sends : Bytes → Prop}

lemma Emitted.of_same {flow next : FlowRecord} {a : EngineAction} (hs : FlowRecord.Same flow next)
    (h : Emitted next sends a) : Emitted flow sends a := by
  cases h with
  | diagnostic code =>
    rw [FlowRecord.diagnostic, hs.flowId]
    exact .diagnostic code
  | blocked reason =>
    rw [FlowRecord.blocked, hs.flowId]
    exact .blocked reason
  | close direction =>
    rw [FlowRecord.close, hs.flowId]
    exact .close direction
  | forward payload =>
    rw [hs.flowId]
    exact .forward payload
  | resolve query =>
    rw [hs.flowId]
    exact .resolve query
  | packet sequence acknowledgement flags window hp =>
    rw [responseFromValues, hs.key]
    exact .packet sequence acknowledgement flags window hp

abbrev EmittedBare (flow : FlowRecord) : EngineAction → Prop :=
  Emitted flow fun payload => payload = []

namespace SegmentProgress

variable {config : EngineConfig} {segment : TcpSegment} {flow : FlowRecord} {p q : SegmentProgress}

structure Emits (flow : FlowRecord) (p : SegmentProgress) : Prop where
  same : FlowRecord.Same flow p.flow
  all : ∀ a ∈ p.actions, EmittedBare flow a

namespace Emits

variable {actions : List EngineAction}

lemma extend (h : Emits flow p) (hs : FlowRecord.Same p.flow q.flow)
    (hq : q.actions = p.actions ++ actions) (ha : ∀ a ∈ actions, EmittedBare p.flow a) :
    Emits flow q := by
  refine ⟨h.same.trans hs, fun a hm => ?_⟩
  rw [hq] at hm
  rcases List.mem_append.mp hm with hm | hm
  · exact h.all a hm
  · exact (ha a hm).of_same h.same

lemma reports (hr : p.flow.Reporting config actions) : ∀ a ∈ actions, EmittedBare p.flow a := by
  intro a ha
  cases hr a ha with
  | diagnostic code => exact .diagnostic code
  | blocked reason => exact .blocked reason
  | ack | synAck => exact .packet _ _ _ _ rfl

lemma edit (h : Emits flow p) (he : Edit config segment p q) : Emits flow q := by
  cases he with
  | report hr | refuse hr => exact h.extend (.refl _) rfl (reports hr)
  | establish => exact ⟨h.same.trans (FlowRecord.establish_same _), h.all⟩
  | clear | buffer => exact ⟨h.same.trans ⟨rfl, rfl, rfl, rfl⟩, h.all⟩
  | forward =>
    refine h.extend ⟨rfl, rfl, rfl, rfl⟩ rfl ?_
    exact List.forall_mem_singleton.mpr (.forward segment.payload)
  | ask =>
    refine h.extend ⟨rfl, rfl, rfl, rfl⟩ rfl ?_
    exact List.forall_mem_singleton.mpr (.resolve _)
  | close | complete =>
    refine h.extend ⟨rfl, rfl, rfl, rfl⟩ rfl ?_
    exact List.forall_mem_singleton.mpr (.close _)
  | halfClose =>
    refine h.extend ⟨rfl, rfl, rfl, rfl⟩ rfl ?_
    split_ifs
    · exact List.forall_mem_nil _
    · exact List.forall_mem_singleton.mpr (.close _)
  | finish =>
    refine h.extend (.refl _) rfl ?_
    simp only [List.forall_mem_cons]
    exact ⟨.packet _ _ _ _ rfl, .close _, List.forall_mem_nil _⟩

end Emits

end SegmentProgress

namespace FlowRecord

open SegmentProgress

def Sends (flow : FlowRecord) : FlowEvent → Bytes → Prop
  | .payload payload _, bytes => bytes = [] ∨ bytes = payload ∧ flow.canAccept payload.length = true
  | .tick _, bytes => ∃ o, flow.outstandingToApplication = some o ∧ bytes = o.payload
  | _, bytes => bytes = []

lemma receiveSegment_emits (config : EngineConfig) (flow : FlowRecord) (pendingDns : PendingDns)
    (nextDnsId : UInt64) (segment : TcpSegment) (now : ℕ) :
    Emits flow (flow.receiveSegment config pendingDns nextDnsId segment now) :=
  receiveSegment_invariant Emits.edit ⟨⟨rfl, rfl, rfl, rfl⟩, List.forall_mem_nil _⟩

lemma failActions_emitted (flow : FlowRecord) (reason : BlockReason) (h : sends []) :
    ∀ a ∈ flow.failActions reason, Emitted flow sends a := by
  simp only [failActions, List.forall_mem_cons]
  exact ⟨.packet _ _ _ _ h, .blocked _, .close _, List.forall_mem_nil _⟩

theorem step_emitted (config : EngineConfig) (flow : FlowRecord) (event : FlowEvent) :
    ∀ a ∈ (flow.step config event).2, Emitted flow (flow.Sends event) a := by
  have hstep := step_cases config flow event
  generalize (flow.step config event).1 = next, (flow.step config event).2 = actions at hstep
  cases hstep with
  | received | removed => exact (receiveSegment_emits config flow _ _ _ _).all
  | reset => exact List.forall_mem_singleton.mpr (.close _)
  | opened | acknowledged | finished | closed =>
    exact List.forall_mem_singleton.mpr (.packet _ _ _ _ rfl)
  | sent payload now _ hc => exact List.forall_mem_singleton.mpr (.packet _ _ _ _ (.inr ⟨rfl, hc⟩))
  | refused => exact flow.failActions_emitted _ (.inl rfl)
  | unclosed | failed => exact flow.failActions_emitted _ rfl
  | repeated now ho =>
    simp only [List.forall_mem_cons]
    exact ⟨.diagnostic _, .packet _ _ _ _ ⟨_, ho, rfl⟩, List.forall_mem_nil _⟩
  | known | empty | quiet | postponed => exact List.forall_mem_nil _

end FlowRecord

end OnionRoute.PacketEngine
