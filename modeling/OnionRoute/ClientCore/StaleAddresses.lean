import OnionRoute.ClientCore.Core
import OnionRoute.DnsEngine.SyntheticAnswers

/-! Streams to synthetic addresses are opened by the name behind the address. -/

namespace OnionRoute.ClientCore

open Library CommonTypes DnsEngine PacketEngine PolicyEngine PacketProcessor

section Processor

variable {s : PacketProcessor} {segment : TcpSegment} {input : PacketEngineInput}
  {request : TcpFlowRequest} {key : IsolationKey} {profile : AnonymityMode}
  {gateway : Option GatewayId}

def hostOf (hostname : Option String) (address : Ipv4Addr) : TcpHost :=
  (hostname.map TcpHost.hostname).getD (.ip (.v4 address))

lemma processTcp_request (hnone : s.flows.lookup segment.key = none)
    (h : .openProtectedStream request key profile gateway ∈ (s.processTcp segment input).2) :
    ∃ route, input.route = some route ∧ route.decision.action = .tunnel ∧
      request.host = hostOf route.hostname segment.destination := by
  simp only [processTcp, hnone, resetByKey] at h
  split_ifs at h
  · simp [rejectSyn] at h
  · simp at h
  · simp at h
  · simp only [openDnsTcp] at h
    split_ifs at h <;> simp [rejectSyn] at h
  · unfold openTcp at h
    by_cases haccepting : (!s.accepting) = true
    · rw [if_pos haccepting] at h
      simp [rejectSyn] at h
    by_cases hprotected : (!protectedState input.connectionState) = true
    · rw [if_neg haccepting, if_pos hprotected] at h
      simp [rejectSyn] at h
    rw [if_neg haccepting, if_neg hprotected] at h
    cases hroute : input.route with
    | none => simp [hroute, rejectSyn] at h
    | some route =>
      cases haction : route.decision.action with
      | block | bypass => simp [hroute, haction, rejectSyn] at h
      | tunnel =>
        simp only [hroute, haction] at h
        split_ifs at h with hfull
        · simp [rejectSyn] at h
        · cases List.mem_singleton.mp h
          exact ⟨route, rfl, haction, rfl⟩

lemma process_request (hs : s.Sound) (hc : classify input.packet = .ok (.tcp segment))
    (h : .openProtectedStream request key profile gateway ∈ (s.process input).2) :
    ∃ route, input.route = some route ∧ route.decision.action = .tunnel ∧
      request.host = hostOf route.hostname segment.destination := by
  rcases (perform_explained hs (.process input)).sources h with hown | ⟨k, flow, hf, hrun⟩
  · simp only [own, hc] at hown
    split_ifs at hown with hsome
    · simp at hown
    · exact processTcp_request (by simpa using hsome) hown
  · -- Segments of a live flow open nothing.
    obtain ⟨past, event, rest, g, he, _, hg⟩ := flow.mem_run_actions s.config hrun
    have hemit := g.step_emitted s.config _ _ hg
    cases hemit

lemma not_opens_of_not_process (hs : s.Sound) {call : Call} (hne : ∀ input, call ≠ .process input) :
    .openProtectedStream request key profile gateway ∉ (s.perform call).2 := by
  intro h
  have hran : Event.Ran s.config ⟨s, call, (s.perform call).2, (s.perform call).1⟩ := ⟨hs, rfl, rfl⟩
  obtain ⟨-, input, hcall, -⟩ := hran.uses h rfl
  exact hne input hcall

end Processor

section Queue

variable {now : ℕ} {P : TcpFlowRequest → Prop}

structure Asks (P : TcpFlowRequest → Prop) (e : Execution) : Prop where
  sound : e.packet.Sound
  waiting : ∀ {request key profile gateway},
    .openProtectedStream request key profile gateway ∈ e.queue → P request

variable {p : PacketProcessor} {action : EngineAction} {rest : List EngineAction}

lemma Asks.append (h : Asks P ⟨p, action :: rest⟩) (call : Call)
    (hne : ∀ input, call ≠ .process input) :
    Asks P ⟨(p.perform call).1, rest ++ (p.perform call).2⟩ := by
  refine ⟨h.sound.perform call, fun hmem => ?_⟩
  rcases List.mem_append.mp hmem with hrest | hnew
  · exact h.waiting (List.mem_cons_of_mem _ hrest)
  · exact absurd hnew (not_opens_of_not_process h.sound hne)

lemma Asks.restart {queue : List EngineAction} (h : Asks P ⟨p, queue⟩) (call : Call)
    (hne : ∀ input, call ≠ .process input) : Asks P ⟨(p.perform call).1, (p.perform call).2⟩ :=
  ⟨h.sound.perform call, fun hmem => absurd hmem (not_opens_of_not_process h.sound hne)⟩

lemma Asks.drop (h : Asks P ⟨p, action :: rest⟩) : Asks P ⟨p, rest⟩ :=
  ⟨h.sound, fun hmem => h.waiting (List.mem_cons_of_mem _ hmem)⟩

variable {e e' : Execution}

lemma Asks.turn {sent : Option TcpFlowRequest} (h : Asks P e) (ht : Turn now e sent e') :
    Asks P e' ∧ ∀ request ∈ sent, P request := by
  have hnothing : ∀ request ∈ (none : Option TcpFlowRequest), P request := by simp
  cases ht with
  | opened p rest request =>
    refine ⟨h.append (.protectedStreamOpened request.flowId now) (fun _ => nofun), ?_⟩
    intro r hr
    exact Option.some.inj hr ▸ h.waiting List.mem_cons_self
  | openFailed p rest request =>
    refine ⟨h.restart (.failFlow request.flowId .downstreamFailure) (fun _ => nofun), ?_⟩
    intro r hr
    exact Option.some.inj hr ▸ h.waiting List.mem_cons_self
  | forwarded p rest flowId payload =>
    exact ⟨h.append (.acknowledgeForwarded flowId payload.length now) (fun _ => nofun), hnothing⟩
  | forwardFailed p rest flowId payload | writeCloseFailed p rest flowId =>
    exact ⟨h.restart (.failFlow flowId .downstreamFailure) (fun _ => nofun), hnothing⟩
  | resolved p rest query target response =>
    exact ⟨h.append (.completeDns query.queryId response now) (fun _ => nofun), hnothing⟩
  | writeClosed => exact ⟨h.drop, hnothing⟩
  | closed => exact ⟨h.drop, hnothing⟩
  | sent => exact ⟨h.drop, hnothing⟩
  | blocked => exact ⟨h.drop, hnothing⟩
  | recorded => exact ⟨h.drop, hnothing⟩

lemma Asks.trace {sent : List (Option TcpFlowRequest)} (h : Asks P e)
    (ht : Trace (Turn now) e sent e') : Asks P e' ∧ ∀ request, some request ∈ sent → P request := by
  induction ht with
  | nil => exact ⟨h, by simp⟩
  | snoc _ hturn ih =>
    obtain ⟨hlast, hbefore⟩ := ih
    obtain ⟨hnext, hsent⟩ := hlast.turn hturn
    refine ⟨hnext, fun request hmem => ?_⟩
    rcases List.mem_append.mp hmem with hmem | hmem
    · exact hbefore request hmem
    · exact hsent request (List.mem_singleton.mp hmem).symm

end Queue

section Route

variable {core : Core} {packet : Bytes} {platform : PlatformMetadata} {now : ℕ}
  {route : ProtectedRoute} {segment : TcpSegment}

lemma routeForPacket_eq_some (hc : classify packet = .ok (.tcp segment))
    (h : (core.routeForPacket packet platform now).1 = some route) :
    route.hostname = (core.dns.lookupHostname now segment.destination).1 ∧
      core.policy ⟨⟨0⟩, hostOf route.hostname segment.destination, segment.destinationPort,
        platform.application⟩ = .ok route.decision := by
  unfold Core.routeForPacket at h
  cases hopening : Core.opening packet with
  | none => simp [hopening] at h
  | some segment' =>
    obtain rfl : segment = segment' := by
      rw [Core.opening, hc] at hopening
      simp only at hopening
      split_ifs at hopening
      exact Option.some.inj hopening
    simp only [hopening] at h
    split at h
    · cases h
    · rename_i decision hdecision
      obtain rfl := Option.some.inj h
      exact ⟨rfl, hdecision⟩

variable {policy : MvpPolicyConfig} {connectionState : ClientConnectionState}

lemma receive_asks (hpolicy : core.policy = evaluateTcp policy) (hs : core.packet.Sound)
    (hc : classify packet = .ok (.tcp segment)) (hsynthetic : Synthetic segment.destination)
    {after : Core} {queue : List EngineAction}
    (hreceive : core.receive packet platform connectionState now = (after, queue)) :
    Asks (fun request => ∃ name, (core.dns.lookupHostname now segment.destination).1 = some name ∧
        request.host = .hostname name) ⟨after.packet, queue⟩ := by
  obtain ⟨rfl, rfl⟩ := Prod.mk.inj hreceive
  refine ⟨hs.perform (.process _), fun hmem => ?_⟩
  obtain ⟨route, hroute, htunnel, hhost⟩ := process_request hs hc hmem
  obtain ⟨hhostname, hdecision⟩ := routeForPacket_eq_some hc hroute
  rw [← hhostname]
  cases hname : route.hostname with
  | some name =>
    rw [hname] at hhost
    exact ⟨name, rfl, hhost⟩
  | none =>
    -- The policy has seen the address itself.
    rw [hpolicy, hname] at hdecision
    have hforbidden : forbiddenDestination (hostOf none segment.destination) = true :=
      forbidden_synthetic hsynthetic
    have hblock := evaluateTcp_forbidden hforbidden hdecision
    rw [htunnel] at hblock
    cases hblock

end Route

lemma lookupHostname_eq_none {c : Cache} (hc : c.Sound) {now : ℕ} {address : Ipv4Addr}
    (h : ∀ n m, c.byName.lookup n = some m → m.address = address → m.expiresAt ≤ now) :
    (c.lookupHostname now address).1 = none := by
  rw [Cache.lookupHostname]
  cases hip : (c.purgeExpired now).byIp.lookup address with
  | none => rfl
  | some n =>
    obtain ⟨m, hm, haddress⟩ := (Cache.purgeExpired_sound hc now).name_of_ip hip
    obtain ⟨hm, hlive⟩ := Cache.purgeExpired_eq_some hc hm
    exact absurd (h n m hm haddress) (not_le.mpr hlive)

/-- A packet to a synthetic address opens no stream when no live entry has that address, and when
one has, only streams to the name of the entry. -/
theorem synthetic_by_name {engine : EngineConfig} {events : List PacketEngine.Event}
    {s : PacketProcessor} (hrun : Run engine events s) (dns : SyntheticDnsConfig)
    (history : List Cache.Event) (policy : MvpPolicyConfig) (route : ActiveRoute)
    (packet : Bytes) (platform : PlatformMetadata) (connectionState : ClientConnectionState)
    (now : ℕ) {segment : TcpSegment} (hc : classify packet = .ok (.tcp segment))
    (hsynthetic : Synthetic segment.destination) {core after : Core} {queue : List EngineAction}
    (hcore : core = ⟨s, (History.run dns history).cache, evaluateTcp policy, route⟩)
    (hreceive : core.receive packet platform connectionState now = (after, queue))
    {sent : List (Option TcpFlowRequest)} {e : Execution}
    (hexecute : Trace (Turn platform.monotonicMs) ⟨after.packet, queue⟩ sent e) :
    ((∀ n m, core.dns.byName.lookup n = some m → m.address = segment.destination →
        m.expiresAt ≤ now) →
      (∀ request key profile gateway,
        .openProtectedStream request key profile gateway ∉ queue ++ e.queue) ∧
        ∀ request, some request ∉ sent) ∧
    ∀ n m, core.dns.byName.lookup n = some m → m.address = segment.destination →
      now < m.expiresAt →
      (∀ request key profile gateway,
        .openProtectedStream request key profile gateway ∈ queue ++ e.queue →
          request.host = .hostname n) ∧
        ∀ request, some request ∈ sent → request.host = .hostname n := by
  have hsound : core.dns.Sound := hcore ▸ History.run_sound dns history
  have hs : core.packet.Sound := hcore ▸ hrun.ran.1
  have hasks := receive_asks (by rw [hcore]) hs hc hsynthetic hreceive
  obtain ⟨hlast, hsent⟩ := hasks.trace hexecute
  constructor
  · intro hstale
    have hnone := lookupHostname_eq_none hsound hstale
    refine ⟨fun request key profile gateway hmem => ?_, fun request hmem => ?_⟩
    · obtain ⟨name, hname, -⟩ := (List.mem_append.mp hmem).elim hasks.waiting hlast.waiting
      rw [hnone] at hname
      cases hname
    · obtain ⟨name, hname, -⟩ := hsent request hmem
      rw [hnone] at hname
      cases hname
  · intro n m hm haddress hlive
    have hfound : (core.dns.lookupHostname now segment.destination).1 = some n :=
      haddress ▸ (Cache.lookupHostname_iff hsound hm).mpr hlive
    refine ⟨fun request key profile gateway hmem => ?_, fun request hmem => ?_⟩
    · obtain ⟨name, hname, hhost⟩ := (List.mem_append.mp hmem).elim hasks.waiting hlast.waiting
      rw [hfound] at hname
      rw [hhost, Option.some.inj hname]
    · obtain ⟨name, hname, hhost⟩ := hsent request hmem
      rw [hfound] at hname
      rw [hhost, Option.some.inj hname]

namespace Sample

open PacketEngine.Sample (start packetOn syn)

def active : ActiveRoute := ⟨⟨Vector.replicate 32 0⟩, .standard, none⟩

def client (history : List Cache.Event) : Core :=
  ⟨start, (History.run {} history).cache, evaluateTcp {}, active⟩

def segment : TcpSegment :=
  ⟨⟨10, 0, 0, 2⟩, ⟨198, 18, 0, 1⟩, 40000, 443, 7, 0, 1024, syn, []⟩

def packet : Bytes := packetOn segment.key 7 0 syn []

lemma classify_packet : classify packet = .ok (.tcp segment) := by decide +kernel

def queue (history : List Cache.Event) : List EngineAction :=
  ((client history).receive packet ⟨none, 0⟩ .connected 1).2

lemma queue_mapped : queue [.query 0 "a"] = [.openProtectedStream ⟨⟨1⟩, .hostname "a", 443, none⟩
    active.isolationKey .standard none] := by decide +kernel

end Sample

open Sample in
theorem synthetic_by_name_syn :
    (∀ request key profile gateway,
      .openProtectedStream request key profile gateway ∉ queue []) ∧
    ∃ request key profile gateway,
      .openProtectedStream request key profile gateway ∈ queue [.query 0 "a"] ∧
        request.host = .hostname "a" := by
  have hrun : Run .default [] PacketEngine.Sample.start := ⟨_, rfl, .nil _⟩
  have hopened : (.openProtectedStream ⟨⟨1⟩, .hostname "a", 443, none⟩ active.isolationKey
      .standard none) ∈ queue [.query 0 "a"] := by
    rw [queue_mapped]
    exact List.mem_singleton_self _
  have hempty := (synthetic_by_name hrun {} [] {} active packet ⟨none, 0⟩ .connected 1
    classify_packet ⟨rfl, .inl rfl⟩ rfl rfl (.nil _)).1 fun n m hm => by cases hm
  have hmapped := (synthetic_by_name hrun {} [.query 0 "a"] {} active packet ⟨none, 0⟩
    .connected 1 classify_packet ⟨rfl, .inl rfl⟩ rfl rfl (.nil _)).2 "a"
    ⟨⟨198, 18, 0, 1⟩, 30 * nanosPerSecond⟩ (by decide +kernel) rfl (by decide)
  exact ⟨fun request key profile gateway hmem =>
      hempty.1 request key profile gateway (List.mem_append_left _ hmem),
    _, _, _, _, hopened, hmapped.1 _ _ _ _ (List.mem_append_left _ hopened)⟩

end OnionRoute.ClientCore
