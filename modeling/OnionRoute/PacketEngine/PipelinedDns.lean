import OnionRoute.PacketEngine.Answers

/-! What the application reads from a DNS flow: its answers, in the order of their completion. -/

namespace OnionRoute.PacketEngine

open Library PacketProcessor Sample

structure Reader where
  next : UInt32
  stream : Bytes

variable {packet : Bytes}

namespace Reader

def read (key : FlowKey) (r : Reader) (packet : Bytes) : Reader :=
  match classify packet with
  | .ok (.tcp answer) =>
    if answer.answers = key ∧ answer.sequence = r.next then
      ⟨r.next + UInt32.ofNat answer.payload.length, r.stream ++ answer.payload⟩
    else r
  | _ => r

def readAction (key : FlowKey) (r : Reader) : EngineAction → Reader
  | .sendSyntheticResponse packet => r.read key packet
  | _ => r

def readAll (key : FlowKey) (r : Reader) (events : List Event) : Reader :=
  events.foldl (fun r e => e.actions.foldl (readAction key) r) r

lemma readAll_concat (key : FlowKey) (r : Reader) (past : List Event) (e : Event) :
    r.readAll key (past ++ [e]) = e.actions.foldl (readAction key) (r.readAll key past) := by
  simp [readAll]

lemma read_of_stale {key : FlowKey} {r : Reader}
    (h : ∀ answer, classify packet = .ok (.tcp answer) → answer.answers = key →
      answer.sequence ≠ r.next ∨ answer.payload = []) : r.read key packet = r := by
  simp only [read]
  split
  · rename_i answer hc
    split_ifs with hin
    · rcases h answer hc hin.1 with hne | he
      · exact absurd hin.2 hne
      · rw [he, List.append_nil]
        exact congrArg (Reader.mk · r.stream) (UInt32.add_zero r.next)
    · rfl
  · rfl

lemma readActions_of_stale {key : FlowKey} {r : Reader} {actions : List EngineAction}
    (h : ∀ packet, .sendSyntheticResponse packet ∈ actions → ∀ answer,
      classify packet = .ok (.tcp answer) → answer.answers = key →
        answer.sequence ≠ r.next ∨ answer.payload = []) :
    actions.foldl (readAction key) r = r := by
  induction actions with
  | nil => rfl
  | cons a actions ih =>
    have hhead : r.readAction key a = r := by
      cases a with
      | sendSyntheticResponse packet => exact read_of_stale (h packet List.mem_cons_self)
      | _ => rfl
    rw [List.foldl_cons, hhead]
    exact ih fun packet hm => h packet (List.mem_cons_of_mem _ hm)

end Reader

def Event.answer (key : FlowKey) (e : Event) : Option Bytes :=
  match e.call with
  | .completeDns queryId wire _ =>
    match e.before.pendingDns.lookup queryId with
    | some (.tcp flowId) => if e.before.ids.lookup flowId = some key then some wire else none
    | _ => none
  | _ => none

def answered (key : FlowKey) (events : List Event) : Bytes :=
  (events.filterMap (Event.answer key)).flatMap framed

def Event.dnsOnly (key : FlowKey) (e : Event) : Bool :=
  match e.call with
  | .protectedPayload flowId _ _ => e.before.ids.lookup flowId ≠ some key
  | .protectedStreamClosed flowId _ => e.before.ids.lookup flowId ≠ some key
  | _ => true

structure Reads (answers : Bytes) (r : Reader) (flow : FlowRecord) : Prop where
  next : r.next = flow.serverNext
  stream : r.stream = answers
  outstanding : ∀ o, flow.outstandingToApplication = some o → o.sequence ≠ flow.serverNext

namespace FlowRecord

variable {config : EngineConfig} {answers : Bytes} {r : Reader} {flow next : FlowRecord}
  {event : FlowEvent}

lemma step_reads (hp : ∀ payload now, event ≠ .payload payload now) (hf : ∀ now, event ≠ .fin now)
    (h : Reads answers r flow) (hn : (flow.step config event).1 = some next) :
    Reads answers r next := by
  obtain ⟨hserver, hout⟩ := step_server config hp hf hn
  refine ⟨h.next.trans hserver.symm, h.stream, fun o ho => ?_⟩
  obtain ⟨o', ho', hseq, _⟩ := hout o ho
  rw [hserver, hseq]
  exact h.outstanding o' ho'

lemma step_stale (hp : ∀ payload now, event ≠ .payload payload now) (hf : ∀ now, event ≠ .fin now)
    (h : Reads answers r flow) (hs : flow.key.source.port ≠ 0) (hd : flow.key.destination.port ≠ 0)
    (hm : .sendSyntheticResponse packet ∈ (flow.step config event).2) {answer : TcpSegment}
    (hc : classify packet = .ok (.tcp answer)) :
    answer.sequence ≠ r.next ∨ answer.payload = [] := by
  by_cases ht : ∃ now, event = .tick now
  · obtain ⟨now, rfl⟩ := ht
    simp only [step] at hm
    obtain ⟨_, ha⟩ | ⟨o, ho, _, ha⟩ := flow.afterTick_cases config now
    · simp [ha] at hm
    · simp only [ha, diagnostic, List.mem_cons, reduceCtorEq, List.not_mem_nil, or_false, false_or,
        EngineAction.sendSyntheticResponse.injEq] at hm
      rw [hm] at hc
      left
      rw [response_inv hs hd hc, h.next]
      exact h.outstanding o ho
  · have hem := step_emitted config flow event _ hm
    generalize hae : EngineAction.sendSyntheticResponse packet = a at hem
    cases hem with
    | @packet sequence acknowledgement flags window payload hsend =>
      obtain rfl := EngineAction.sendSyntheticResponse.inj hae
      right
      rw [response_inv hs hd hc]
      cases event with
      | payload payload now => exact absurd rfl (hp payload now)
      | tick now => exact absurd ⟨now, rfl⟩ ht
      | _ => exact hsend
    | _ => cases hae

lemma run_reads {events : List FlowEvent}
    (hno : ∀ event ∈ events, (∀ payload now, event ≠ .payload payload now) ∧
      ∀ now, event ≠ .fin now) (h : Reads answers r flow)
    (hn : (flow.run config events).1 = some next) : Reads answers r next :=
  run_invariant config flow (P := Reads answers r)
    (fun _ event _ he hf hg => step_reads (hno event he).1 (hno event he).2 hf hg) h hn

lemma run_stale {events : List FlowEvent}
    (hno : ∀ event ∈ events, (∀ payload now, event ≠ .payload payload now) ∧
      ∀ now, event ≠ .fin now) (h : Reads answers r flow) (hs : flow.key.source.port ≠ 0)
    (hd : flow.key.destination.port ≠ 0)
    (hm : .sendSyntheticResponse packet ∈ (flow.run config events).2) {answer : TcpSegment}
    (hc : classify packet = .ok (.tcp answer)) :
    answer.sequence ≠ r.next ∨ answer.payload = [] := by
  obtain ⟨past, event, rest, g, rfl, hg, hstep⟩ := mem_run_actions config flow hm
  have hkey := (run_same config flow hg).key
  have hreads := run_reads (fun e he => hno e (List.mem_append_left _ he)) h hg
  refine step_stale (hno event (by simp)).1 (hno event (by simp)).2 hreads ?_ ?_ hstep hc
  · rw [hkey]
    exact hs
  · rw [hkey]
    exact hd

lemma sendPayload_reads (config : EngineConfig) (h : Reads answers r flow)
    (hs : flow.key.source.port ≠ 0) (hd : flow.key.destination.port ≠ 0) {payload : Bytes}
    (hne : payload ≠ []) (hl : payload.length ≤ 65495) (now : ℕ) :
    Reads (answers ++ payload)
      ((flow.sendPayload config payload now).2.foldl (Reader.readAction flow.key) r)
      (flow.sendPayload config payload now).1 := by
  have hread : (flow.sendPayload config payload now).2.foldl (Reader.readAction flow.key) r =
      ⟨flow.serverNext + UInt32.ofNat payload.length, answers ++ payload⟩ := by
    have hc := classify_response flow flow.serverNext flow.clientNext
      { TcpFlags.ackOnly with psh := true } config.receiveWindow payload hs hd hl
    simp only [sendPayload, List.foldl_cons, List.foldl_nil, Reader.readAction, Reader.read, hc,
      h.next, h.stream]
    exact if_pos ⟨rfl, trivial⟩
  rw [hread]
  refine ⟨rfl, rfl, fun o ho he => ?_⟩
  obtain rfl := Option.some.inj ho
  have hpos := List.length_pos_of_ne_nil hne
  have hstay : flow.serverNext + UInt32.ofNat 0 =
      flow.serverNext + UInt32.ofNat payload.length := (UInt32.add_zero _).trans he
  have hzero := add_ofNat_inj (by decide) (by omega) hstay
  omega

end FlowRecord

variable {config : EngineConfig} {key : FlowKey} {events : List Event} {s : PacketProcessor}
  {e : Event} {flow : FlowRecord} {answers : Bytes} {r : Reader}

lemma Run.unread (h : Run config events s) (he : e ∈ events)
    (hf : e.before.flows.lookup key = some flow) (hdns : e.dnsOnly key = true)
    (hnone : e.answer key = none) (hreads : Reads answers r flow) :
    e.actions.foldl (Reader.readAction key) r = r ∧
      ∀ next, e.after.flows.lookup key = some next → Reads answers r next := by
  have hran := h.ran.2.2 e he
  have hports := h.ports he hf
  have hno : ∀ event ∈ e.before.deliveries key flow e.call,
      (∀ payload now, event ≠ .payload payload now) ∧ ∀ now, event ≠ .fin now := by
    intro event hm
    have hd := delivered_of_mem hm
    generalize hcall : e.call = call at hd
    cases hd with
    | payload payload now hid | fin now hid => simp [Event.dnsOnly, hcall, hid] at hdns
    | answer now hq hv hid =>
      simp only [Event.answer, hcall, hq, hid, if_true] at hnone
      cases hnone
    | _ => exact ⟨nofun, nofun⟩
  refine ⟨Reader.readActions_of_stale fun packet hm answer hc hk => ?_, fun next hn => ?_⟩
  · subst hk
    exact FlowRecord.run_stale hno hreads hports.1 hports.2 (h.answer_source he hm hc hf) hc
  · rw [hran.lookup hf] at hn
    exact FlowRecord.run_reads hno hreads hn

lemma Event.answer_eq_some {wire : Bytes} (h : e.answer key = some wire) :
    ∃ queryId now flowId, e.call = .completeDns queryId wire now ∧
      e.before.pendingDns.lookup queryId = some (.tcp flowId) ∧
      e.before.ids.lookup flowId = some key := by
  simp only [Event.answer] at h
  split at h
  · rename_i queryId wire' now hc
    split at h
    · rename_i flowId hq
      split_ifs at h with hid
      obtain rfl := Option.some.inj h
      exact ⟨queryId, now, flowId, hc, hq, hid⟩
    · cases h
  · cases h

lemma Run.read (h : Run config events s) (he : e ∈ events)
    (hf : e.before.flows.lookup key = some flow) {wire : Bytes} (ha : e.answer key = some wire)
    (hne : wire ≠ []) (hl : (framed wire).length ≤ 65495)
    (hacc : flow.canAccept (framed wire).length = true) (hreads : Reads answers r flow) :
    ∃ next, e.after.flows.lookup key = some next ∧
      Reads (answers ++ framed wire) (e.actions.foldl (Reader.readAction key) r) next := by
  have hran := h.ran.2.2 e he
  have hports := h.ports he hf
  obtain ⟨queryId, now, flowId, hcall, hq, hid⟩ := Event.answer_eq_some ha
  have hlen : wire.length ≤ maxDnsMessageBytes := by
    have : (framed wire).length = wire.length + 2 := by simp [framed, Nat.add_comm]
    simp only [maxDnsMessageBytes]
    omega
  have hvalid : ¬ (wire.isEmpty = true ∨ wire.length > maxDnsMessageBytes) := by
    rw [List.isEmpty_iff]
    exact not_or.mpr ⟨hne, not_lt.mpr hlen⟩
  have hresult : (e.after, e.actions) = (({ e.before with
      pendingDns := e.before.pendingDns.erase queryId }.putFlow key
        (flow.sendPayload config (framed wire) now).1),
      (flow.sendPayload config (framed wire) now).2) := by
    rw [← hran.result, hcall]
    simp only [perform, completeDns, hq, if_neg hvalid, flowOf, hid, hf, Option.map_some, hacc,
      Bool.not_true, Bool.false_eq_true, if_false, hran.config]
  have hsent : e.actions = (flow.sendPayload config (framed wire) now).2 :=
    congrArg Prod.snd hresult
  have hafter : e.after = _ := congrArg Prod.fst hresult
  refine ⟨(flow.sendPayload config (framed wire) now).1, ?_, ?_⟩
  · rw [hafter]
    exact (putFlow_lookup_of hf _ key).trans (if_pos rfl)
  · rw [hsent, ← hran.sound.key hf]
    exact FlowRecord.sendPayload_reads config hreads hports.1 hports.2 (by simp [framed, hne]) hl now

lemma answered_concat (key : FlowKey) (past : List Event) (e : Event) :
    answered key (past ++ [e]) = answered key past ++ ((e.answer key).map framed).getD [] := by
  simp only [answered, List.filterMap_append, List.flatMap_append, List.filterMap_cons,
    List.filterMap_nil]
  cases e.answer key <;> simp

theorem answers_delivered {opening : Event} {life : List Event}
    (h : Lifetime config key opening flow life s) (hdns : ∀ e ∈ life, e.dnsOnly key = true)
    (hsize : ∀ e ∈ life, ∀ wire ∈ e.answer key,
      wire ≠ [] ∧ (framed wire).length ≤ config.buffers.toApplicationBytes)
    (hroom : ∀ e ∈ life, ∀ wire ∈ e.answer key,
      (framed wire).length ≤ 65495 ∧ ∀ g ∈ e.before.flows.lookup key, g.writable = true) :
    (Reader.readAll key ⟨flow.serverNext, []⟩ life).stream = answered key life ∧
      ∀ e ∈ life, e.answer key ≠ none → e.after.flows.lookup key ≠ none := by
  obtain ⟨history, hrun⟩ := h.run
  have hall := life_induction (P := fun past opt =>
    ((Reader.readAll key ⟨flow.serverNext, []⟩ past).stream = answered key past ∧
      ∀ e ∈ past, e.answer key ≠ none → e.after.flows.lookup key ≠ none) ∧
    ∀ g, opt = some g → FlowRecord.Same flow g ∧
      Reads (answered key past) (Reader.readAll key ⟨flow.serverNext, []⟩ past) g)
    h.trace h.ran.after_sound h.ran.after_config h.live ?_ ?_
  · exact hall.1
  · refine ⟨⟨rfl, fun e he => absurd he List.not_mem_nil⟩, fun g hg => ?_⟩
    rw [h.opened] at hg
    obtain rfl := Option.some.inj hg
    refine ⟨.refl _, rfl, rfl, fun o ho => ?_⟩
    have hout : flow.outstandingToApplication = none := by
      have ho := h.isOpening
      generalize opening.call = call at ho
      cases ho <;> rfl
    rw [hout] at ho
    cases ho
  · intro past e g hpast hP hran hg
    have he : e ∈ life := hpast.subset (by simp)
    have hmem : e ∈ history ++ opening :: life := by simp [he]
    obtain ⟨hsame, hreads⟩ := hP.2 g rfl
    have hnext : ∀ next, e.after.flows.lookup key = some next → FlowRecord.Same flow next := by
      intro next hn
      rw [hran.lookup hg] at hn
      exact hsame.trans (g.run_same config hn)
    rw [Reader.readAll_concat, answered_concat]
    cases ha : e.answer key with
    | none =>
      obtain ⟨hread, hreads'⟩ := hrun.unread hmem hg (hdns e he) ha hreads
      rw [hread, Option.map_none, Option.getD_none, List.append_nil]
      refine ⟨⟨hP.1.1, fun e' he' hsome => ?_⟩, fun next hn => ⟨hnext next hn, hreads' next hn⟩⟩
      rcases List.mem_append.mp he' with he' | he'
      · exact hP.1.2 e' he' hsome
      · rw [List.mem_singleton.mp he', ha] at hsome
        exact absurd rfl hsome
    | some wire =>
      have hlimits : g.snapshot.limits = config.buffers := by
        rw [hsame.limits, h.isOpening.limits_eq, h.ran.config]
      have hacc : g.canAccept (framed wire).length = true := by
        rw [FlowRecord.canAccept, hlimits, (hroom e he wire ha).2 g hg, Bool.and_true]
        exact decide_eq_true (hsize e he wire ha).2
      obtain ⟨next, hn, hreads'⟩ := hrun.read hmem hg ha (hsize e he wire ha).1
        (hroom e he wire ha).1 hacc hreads
      rw [Option.map_some, Option.getD_some]
      refine ⟨⟨hreads'.stream, fun e' he' hsome => ?_⟩, fun next' hn' => ?_⟩
      · rcases List.mem_append.mp he' with he' | he'
        · exact hP.1.2 e' he' hsome
        · rw [List.mem_singleton.mp he', hn]
          exact Option.some_ne_none next
      · rw [hn] at hn'
        obtain rfl := Option.some.inj hn'
        exact ⟨hnext _ hn, hreads'⟩

namespace Sample

def dnsKey : FlowKey := ⟨source, ⟨⟨9, 9, 9, 9⟩, 53⟩⟩

def dnsSegment (sequence acknowledgement : UInt32) (flags : TcpFlags) (payload : Bytes) : Call :=
  .process (input (packetOn dnsKey sequence acknowledgement flags payload))

def dnsOpening : Call := dnsSegment 7 0 syn []

def dnsOpened : FlowRecord :=
  dnsFlow .default flowId dnsKey ⟨source.address, dnsKey.destination.address, source.port, 53, 7, 0,
    1024, syn, []⟩ ⟨none, 0⟩

def twoQueries : List Call :=
  [dnsSegment 8 serverNext .ackOnly [], dnsSegment 8 serverNext .ackOnly [0, 1, 90, 0, 1, 91]]

def alternating : List Call :=
  twoQueries ++ [.completeDns 1 [80] 0, dnsSegment 14 (serverNext + 3) .ackOnly [],
    .completeDns 2 [81] 0]

def pipelined : List Call :=
  twoQueries ++ [.completeDns 1 [80] 0, .completeDns 2 [81] 0]

def dnsLife (calls : List Call) : List Event :=
  eventsOf (eventOf start dnsOpening).after calls

end Sample

open Sample in
theorem answers_delivered_alternating :
    answered dnsKey (dnsLife alternating) = [0, 1, 80, 0, 1, 81] ∧
      (Reader.readAll dnsKey ⟨serverNext, []⟩
        (dnsLife alternating)).stream =
          answered dnsKey (dnsLife alternating) := by
  have hlife : Lifetime .default dnsKey (eventOf start dnsOpening)
      dnsOpened (dnsLife alternating)
      (finalOf start (dnsOpening :: alternating)) :=
    .of_calls new_default (by decide +kernel) (by decide +kernel) (by decide +kernel)
  have hdns : ∀ e ∈ dnsLife alternating, e.dnsOnly dnsKey = true := by
    decide +kernel
  have hsize : ∀ e ∈ dnsLife alternating, ∀ wire ∈ e.answer dnsKey,
      wire ≠ [] ∧ (framed wire).length ≤ EngineConfig.default.buffers.toApplicationBytes := by
    decide +kernel
  have hroom : ∀ e ∈ dnsLife alternating, ∀ wire ∈ e.answer dnsKey,
      (framed wire).length ≤ 65495 ∧
        ∀ g ∈ e.before.flows.lookup dnsKey, g.writable = true := by decide +kernel
  have hread := answers_delivered hlife hdns hsize hroom
  exact ⟨by decide +kernel, hread.1⟩

open Sample in
theorem second_answer_fails_flow :
    Run .default (eventsOf start (dnsOpening :: pipelined))
        (finalOf start (dnsOpening :: pipelined)) ∧
      (dnsLife pipelined).filterMap (Event.answer dnsKey) = [[80], [81]] ∧
      (Reader.readAll dnsKey ⟨serverNext, []⟩
        (dnsLife pipelined)).stream = framed [80] ∧
      .blockFlow (some flowId) .backpressure ∈
        (eventOf (finalOf start (dnsOpening :: twoQueries ++
          [.completeDns 1 [80] 0])) (.completeDns 2 [81] 0)).actions ∧
      (finalOf start (dnsOpening :: pipelined)).flows.lookup dnsKey =
        none := by
  refine ⟨run_eventsOf new_default _, ?_, ?_, ?_, ?_⟩ <;> decide +kernel

end OnionRoute.PacketEngine
