import OnionRoute.PacketEngine.Runs

/-! A flow that leaves the table has had its stream closed in both directions. -/

namespace OnionRoute.PacketEngine

open Library FlowRecord

namespace SegmentProgress

variable {config : EngineConfig} {segment : TcpSegment} {p q : SegmentProgress}

def Releasing (p : SegmentProgress) : Prop :=
  p.remove = true → p.flow.close .both ∈ p.actions

def Leaving (p : SegmentProgress) : Prop :=
  p.flow.state = .halfClosedRemote ∨ p.flow.close .both ∈ p.actions

lemma mem_close_of_edit (he : Edit config segment p q) (h : p.flow.close .both ∈ p.actions) :
    q.flow.close .both ∈ q.actions := by
  cases he with
  | establish =>
    rw [close, (establish_same p.flow).flowId]
    exact h
  | clear | buffer => exact h
  | _ => exact List.mem_append_left _ h

end SegmentProgress

namespace FlowRecord

open SegmentProgress

variable {config : EngineConfig} {flow next : FlowRecord} {event : FlowEvent}

lemma receiveSegment_releasing (config : EngineConfig) (flow : FlowRecord)
    (pendingDns : PendingDns) (nextDnsId : UInt64) (segment : TcpSegment) (now : ℕ) :
    (flow.receiveSegment config pendingDns nextDnsId segment now).Releasing := by
  refine receiveSegment_invariant (I := Releasing) (fun {p q} h he hr => ?_)
    fun hr => absurd hr Bool.false_ne_true
  have hold : p.remove = true → q.flow.close .both ∈ q.actions := mem_close_of_edit he ∘ h
  cases he with
  | close | complete | finish => simp [close, acceptFin]
  | _ => exact hold hr

lemma receiveSegment_leaving (config : EngineConfig) (h : flow.state = .halfClosedRemote)
    (pendingDns : PendingDns) (nextDnsId : UInt64) (segment : TcpSegment) (now : ℕ) :
    (flow.receiveSegment config pendingDns nextDnsId segment now).Leaving := by
  refine receiveSegment_invariant (I := Leaving) (fun {p q} h he => ?_) (.inl h)
  rcases h with hs | hm
  · cases he with
    | establish he => rw [hs] at he; cases he
    | close => exact .inr (by simp [close, acceptFin])
    | halfClose _ _ _ hne => exact absurd hs hne
    | _ => exact .inl hs
  · exact .inr (mem_close_of_edit he hm)

lemma step_releases (h : (flow.step config event).1 = none) :
    flow.close .both ∈ (flow.step config event).2 ∨
      (∃ bytes now, event = .acknowledged bytes now) ∧ flow.finished = true := by
  have hstep := step_cases config flow event
  rw [h] at hstep
  generalize (flow.step config event).2 = actions at hstep ⊢
  cases hstep with
  | removed pendingDns nextDnsId segment now hr =>
    have hclose := receiveSegment_releasing config flow pendingDns nextDnsId segment now hr
    rw [close, (receiveSegment_same config flow pendingDns nextDnsId segment now).flowId] at hclose
    exact .inl hclose
  | reset => exact .inl List.mem_cons_self
  | finished bytes now hfin => exact .inr ⟨⟨bytes, now, rfl⟩, hfin⟩
  | refused | unclosed | failed => exact .inl (by simp [failActions])

lemma step_leaves (hs : flow.state = .halfClosedRemote)
    (h : (flow.step config event).1 = some next) :
    next.state = .halfClosedRemote ∨ flow.close .both ∈ (flow.step config event).2 := by
  have hstep := step_some h
  generalize (flow.step config event).2 = actions at hstep ⊢
  cases hstep with
  | received pendingDns nextDnsId segment now =>
    have hleave := receiveSegment_leaving config hs pendingDns nextDnsId segment now
    rw [Leaving, close, (receiveSegment_same config flow pendingDns nextDnsId segment now).flowId]
      at hleave
    exact hleave
  | opened now hc =>
    rw [hs] at hc
    cases hc
  | closed now hw => simp [writable, hs] at hw
  | _ => exact .inl hs

end FlowRecord

lemma acknowledged_mem_deliveries {s : PacketProcessor} {key : FlowKey} {flow : FlowRecord}
    {call : Call} {bytes now : ℕ} (h : .acknowledged bytes now ∈ s.deliveries key flow call) :
    ∃ flowId, call = .acknowledgeForwarded flowId bytes now ∧ s.ids.lookup flowId = some key := by
  have hd := PacketProcessor.delivered_of_mem h
  generalize he : FlowEvent.acknowledged bytes now = event at hd
  cases hd with
  | acknowledged bytes' now' hid =>
    obtain ⟨rfl, rfl⟩ := FlowEvent.acknowledged.inj he
    exact ⟨_, rfl, hid⟩
  | _ => cases he

def Event.EndsByConfirmation (key : FlowKey) (e : Event) : Prop :=
  ∃ flowId bytes now flow, e.call = .acknowledgeForwarded flowId bytes now ∧
    e.before.ids.lookup flowId = some key ∧ e.before.flows.lookup key = some flow ∧
    flow.finished = true

def Event.FindsHalfClosed (key : FlowKey) (e : Event) : Prop :=
  ∃ flow, e.before.flows.lookup key = some flow ∧ flow.state = .halfClosedRemote

def Event.Releases (flowId : FlowId) (e : Event) : Prop :=
  .closeProtectedStream flowId .both ∈ e.actions

variable {config : EngineConfig} {key : FlowKey} {e : Event} {flow : FlowRecord}

lemma Event.Ran.releases (h : e.Ran config) (hf : e.before.flows.lookup key = some flow)
    (hgone : e.after.flows.lookup key = none) :
    e.Releases flow.flowId ∨ e.EndsByConfirmation key := by
  rw [h.lookup hf] at hgone
  have hemits := h.emits hf
  obtain hds | ⟨event, hds⟩ | ⟨now, reason, hds⟩ := PacketProcessor.deliveries_cases hf e.call
  · rw [hds] at hgone
    cases hgone
  · rw [hds, run_single] at hgone hemits
    obtain hclose | ⟨⟨bytes, now, rfl⟩, hfin⟩ := step_releases hgone
    · exact .inl (hemits hclose)
    · obtain ⟨id, hcall, hid⟩ := acknowledged_mem_deliveries
        (show .acknowledged bytes now ∈ e.before.deliveries key flow e.call by
          rw [hds]; exact List.mem_cons_self)
      exact .inr ⟨id, bytes, now, flow, hcall, hid, hf, hfin⟩
  · left
    rw [hds] at hemits
    apply hemits
    refine List.mem_append_right _ ?_
    rw [← (flow.afterTick_same config now).flowId]
    simp [run, step, failActions, close]

lemma Event.Ran.leaves (h : e.Ran config) (hf : e.before.flows.lookup key = some flow)
    (hs : flow.state = .halfClosedRemote) {next : FlowRecord}
    (hn : e.after.flows.lookup key = some next) :
    next.state = .halfClosedRemote ∨ e.Releases flow.flowId := by
  rw [h.lookup hf] at hn
  have hemits := h.emits hf
  obtain hds | ⟨event, hds⟩ | ⟨now, reason, hds⟩ := PacketProcessor.deliveries_cases hf e.call
  · rw [hds] at hn
    obtain rfl := Option.some.inj hn
    exact .inl hs
  · rw [hds, run_single] at hn hemits
    exact (step_leaves hs hn).imp id fun hclose => hemits hclose
  · rw [hds] at hn
    cases hn

theorem stream_released {opening : Event} {life : List Event} {s : PacketProcessor}
    (h : Lifetime config key opening flow life s)
    (hconfirm : ∀ past e, past ++ [e] <+: life → e.EndsByConfirmation key →
      ∃ e' ∈ past, e'.FindsHalfClosed key)
    (hgone : s.flows.lookup key = none) :
    ∃ e ∈ life, e.Releases flow.flowId := by
  -- once half closed by the peer, a live flow is still so or has released its stream
  have hall := life_induction (P := fun past r =>
    (∀ g, r = some g → FlowRecord.Same flow g ∧ ((∃ e ∈ past, e.FindsHalfClosed key) →
      g.state = .halfClosedRemote ∨ ∃ e ∈ past, e.Releases flow.flowId)) ∧
    (r = none → ∃ e ∈ past, e.Releases flow.flowId))
    h.trace h.ran.after_sound h.ran.after_config h.live ?_ ?_
  · exact hall.2 hgone
  · rw [h.opened]
    refine ⟨fun g hg => ?_, nofun⟩
    obtain rfl := Option.some.inj hg
    exact ⟨.refl _, fun ⟨e, he, _⟩ => absurd he List.not_mem_nil⟩
  · intro past e g hpast hP hran hg
    obtain ⟨hsame, hleft⟩ := hP.1 g rfl
    have hlast : e ∈ past ++ [e] := List.mem_append_right _ List.mem_cons_self
    have hold : (∃ e' ∈ past, e'.Releases flow.flowId) →
        ∃ e' ∈ past ++ [e], e'.Releases flow.flowId :=
      fun ⟨e', he', hr⟩ => ⟨e', List.mem_append_left _ he', hr⟩
    have hnew : e.Releases g.flowId → ∃ e' ∈ past ++ [e], e'.Releases flow.flowId := by
      rw [hsame.flowId]
      exact fun hr => ⟨e, hlast, hr⟩
    refine ⟨fun next hn => ⟨?_, fun hfound => ?_⟩, fun hn => ?_⟩
    · have hrun := hran.lookup hg
      rw [hn] at hrun
      exact hsame.trans (g.run_same config hrun.symm)
    · have hstate : g.state = .halfClosedRemote ∨ ∃ e' ∈ past, e'.Releases flow.flowId := by
        obtain ⟨e', he', hfound⟩ := hfound
        rcases List.mem_append.mp he' with he' | he'
        · exact hleft ⟨e', he', hfound⟩
        · rw [List.mem_singleton.mp he'] at hfound
          obtain ⟨f, hf, hs⟩ := hfound
          rw [hg] at hf
          obtain rfl := Option.some.inj hf
          exact .inl hs
      rcases hstate with hs | hr
      · exact (hran.leaves hg hs hn).imp id hnew
      · exact .inr (hold hr)
    · rcases hran.releases hg hn with hr | hend
      · exact hnew hr
      · -- closing after the peer's half close, so no longer in it
        obtain ⟨_, _, _, f, _, _, hf, hfin⟩ := id hend
        rw [hg] at hf
        obtain rfl := Option.some.inj hf
        have hclosing : g.state ≠ .halfClosedRemote := by
          intro hs
          simp [finished, hs] at hfin
        exact hold ((hleft (hconfirm past e hpast hend)).resolve_left hclosing)

open Sample in
def orderlyCalls : List Call :=
  [.protectedStreamOpened flowId 0, segment 8 Sample.serverNext .ackOnly [],
    segment 8 Sample.serverNext .finAck [], .protectedStreamClosed flowId 0,
    segment 9 (Sample.serverNext + 1) .ackOnly []]

def orderlyLife : List Event :=
  eventsOf (eventOf Sample.start Sample.opening).after orderlyCalls

open Sample in
theorem stream_released_orderly :
    (finalOf start (opening :: orderlyCalls)).flows.lookup Sample.key = none ∧
      ∃ e ∈ orderlyLife, e.Releases flowId := by
  have hlife : Lifetime .default Sample.key (eventOf start opening) Sample.opened
      orderlyLife (finalOf start (opening :: orderlyCalls)) :=
    .of_calls new_default (by decide +kernel) (by decide +kernel) (by decide +kernel)
  have hgone : (finalOf start (opening :: orderlyCalls)).flows.lookup Sample.key =
      none := by decide +kernel
  refine ⟨hgone, stream_released hlife (fun past e hpast hend => ?_) hgone⟩
  have he : e ∈ orderlyLife := hpast.subset (by simp)
  obtain ⟨id, bytes, now, flow, hcall, _⟩ := hend
  simp only [orderlyLife, orderlyCalls, eventsOf, List.mem_cons, List.not_mem_nil, or_false] at he
  rcases he with rfl | rfl | rfl | rfl | rfl <;> cases hcall

open Sample in
def leakyCalls : List Call :=
  [.protectedStreamOpened flowId 0, segment 8 Sample.serverNext .ackOnly [],
    segment 8 Sample.serverNext .ackOnly [104, 105],
    segment 10 Sample.serverNext .finAck [], .protectedStreamClosed flowId 0,
    segment 10 (Sample.serverNext + 1) .finAck [], .acknowledgeForwarded flowId 2 0]

open Sample in
theorem confirmation_leaks_stream :
    Run .default (eventsOf start (opening :: leakyCalls))
        (finalOf start (opening :: leakyCalls)) ∧
      (eventOf start opening).after.flows.lookup Sample.key = some Sample.opened ∧
      (finalOf start (opening :: leakyCalls)).flows.lookup Sample.key = none ∧
      ∀ e ∈ eventsOf start (opening :: leakyCalls), ¬ e.Releases flowId := by
  have hkept : ∀ e ∈ eventsOf start (opening :: leakyCalls),
      .closeProtectedStream flowId .both ∉ e.actions := by decide +kernel
  exact ⟨run_eventsOf new_default _, by decide +kernel, by decide +kernel, hkept⟩

end OnionRoute.PacketEngine
