import OnionRoute.GatewayProtocol.HandshakeOutcomes

/-! The runs of the client's and of the server's end that end with a session. -/

namespace OnionRoute.GatewayProtocol

open Library Process Session ProtocolLimits

variable {u : Unit}

lemma ProtocolLimits.validate_eq_ok {limits : ProtocolLimits} :
    limits.validate = .ok u ↔ (minNegotiableFrameSize ≤ limits.maximumFrameSize ∧
        limits.maximumFrameSize ≤ absoluteMaxFrameSize) ∧
      (1 ≤ limits.maximumConcurrentStreams ∧
        limits.maximumConcurrentStreams ≤ maxConcurrentStreams) ∧
      (limits.initialConnectionWindow ≠ 0 ∧
        limits.initialConnectionWindow.toNat ≤ maxConnectionWindow) ∧
      (limits.initialStreamWindow ≠ 0 ∧ limits.initialStreamWindow.toNat ≤ maxStreamWindow) ∧
      (limits.maximumQueuedBytes ≠ 0 ∧ limits.maximumQueuedBytesPerStream ≠ 0 ∧
        limits.maximumQueuedBytesPerStream ≤ limits.maximumQueuedBytes ∧
        limits.maximumControlFrames ≠ 0 ∧ limits.maximumOutstandingResolves ≠ 0) ∧
      limits.handshakeTimeout ≠ 0 ∧ limits.idleStreamTimeout ≠ 0 := by
  simp only [validate, guard_eq_ok, ite_throw_eq_ok, not_or, not_lt, gt_iff_lt,
    and_true, ne_eq]

namespace Session

variable {s t : Session} {role : PeerRole} {phase : SessionPhase} {limits : ProtocolLimits}
  {version : ProtocolVersion} {parameters : NegotiatedParameters} {body : Body}

def opening (role : PeerRole) (phase : SessionPhase) (limits : ProtocolLimits)
    (version : ProtocolVersion) : Session where
  localRole := role
  phase
  limits
  maximumFrameSize := limits.maximumFrameSize
  outboundVersion := version
  selectedVersion := none
  sessionId := []
  nextSendSequence := 1
  nextReceiveSequence := 1
  enabledCriticalExtensions := ∅
  enabledCapabilities := []
  scheduler := {
    control := []
    streams := ∅
    perStreamBytes := ∅
    active := []
    queuedBytes := 0
    maximumQueuedBytes := limits.maximumQueuedBytes
    maximumQueuedBytesPerStream := limits.maximumQueuedBytesPerStream
    maximumControlFrames := limits.maximumControlFrames
    controlBurst := 0 }
  flow := none
  localResolves := ∅
  remoteResolves := ∅
  maximumSeenLocalQueryId := 0
  maximumSeenRemoteQueryId := 0

lemma new_eq_ok :
    new role phase limits version = .ok s ↔
      limits.validate = .ok () ∧ version.major ≠ 0 ∧ s = opening role phase limits version := by
  simp only [new, bind_eq_ok, require_eq_ok, pure_eq_ok]
  constructor
  · rintro ⟨_, hlimits, _, hmajor, scheduler, hscheduler, rfl⟩
    rw [FairScheduler.new, ite_throw_eq_ok] at hscheduler
    obtain ⟨-, rfl⟩ := hscheduler
    exact ⟨hlimits, hmajor, rfl⟩
  · rintro ⟨hlimits, hmajor, rfl⟩
    obtain ⟨-, -, -, -, ⟨hqueue, hstream, hle, hcontrol, -⟩, -⟩ :=
      validate_eq_ok.mp hlimits
    refine ⟨(), hlimits, (), hmajor, _, ?_, rfl⟩
    rw [FairScheduler.new, ite_throw_eq_ok]
    exact ⟨by omega, rfl⟩

lemma ready_opening (hlimits : limits.validate = .ok ()) (hmajor : version.major ≠ 0)
    (hphase : (opening role phase limits version).Handshaking) :
    (opening role phase limits version).Ready := by
  obtain ⟨⟨-, hlargest⟩, -, -, -, ⟨-, -, -, hcontrol, -⟩, -⟩ :=
    validate_eq_ok.mp hlimits
  exact {
    handshaking := hphase
    control := rfl
    active := rfl
    queuedBytes := rfl
    controlFrames := Nat.pos_of_ne_zero hcontrol
    version := hmajor
    largest := hlargest
    counts := Nat.one_ne_zero
    sequence := (by decide : 1 < u64Max) }

structure Negotiates (s : Session) (parameters : NegotiatedParameters) : Prop where
  major : parameters.selectedVersion.major ≠ 0
  sessionId : parameters.sessionId.length = 16
  frame : parameters.maximumFrameSize ≠ 0
  frame_le : parameters.maximumFrameSize ≤ s.limits.maximumFrameSize
  capabilities : validateCapabilities parameters.enabledCapabilities = .ok ()
  idle : parameters.idleStreamTimeout ≠ 0
  peer : parameters.peerConnectionReceiveWindow ≠ 0 ∧
    parameters.peerConnectionReceiveWindow.toNat ≤ maxConnectionWindow
  own : parameters.localConnectionReceiveWindow ≠ 0 ∧
    parameters.localConnectionReceiveWindow.toNat ≤ maxConnectionWindow
  streams : min parameters.maximumConcurrentStreams s.limits.maximumConcurrentStreams ≠ 0

def initialFlow (s : Session) (parameters : NegotiatedParameters) : FlowController where
  connectionSendWindow := parameters.peerConnectionReceiveWindow.toNat
  connectionReceiveWindow := parameters.localConnectionReceiveWindow.toNat
  maximumConcurrentStreams :=
    min parameters.maximumConcurrentStreams s.limits.maximumConcurrentStreams
  maximumSeenStreamId := 0
  streams := ∅

def negotiated (s : Session) (parameters : NegotiatedParameters) : Session :=
  { s with
    outboundVersion := parameters.selectedVersion
    selectedVersion := some parameters.selectedVersion
    sessionId := parameters.sessionId
    maximumFrameSize := parameters.maximumFrameSize
    enabledCapabilities := parameters.enabledCapabilities
    limits := { s.limits with idleStreamTimeout := parameters.idleStreamTimeout }
    flow := some (s.initialFlow parameters)
    phase := parameters.nextPhase }

lemma Negotiates.new_flow (h : s.Negotiates parameters) :
    FlowController.new parameters.peerConnectionReceiveWindow
        parameters.localConnectionReceiveWindow
        (min parameters.maximumConcurrentStreams s.limits.maximumConcurrentStreams) =
      .ok (s.initialFlow parameters) := by
  rw [FlowController.new, ite_throw_eq_ok]
  simp only [not_or, gt_iff_lt, not_lt]
  exact ⟨⟨h.peer.1, h.own.1, h.peer.2, h.own.2, h.streams⟩, rfl⟩

lemma configureNegotiated_iff :
    configureNegotiated parameters s = .ok u t ↔
      s.Negotiates parameters ∧ t = s.negotiated parameters := by
  simp only [configureNegotiated, state_guard_eq_ok, state_bind_eq_ok, state_get_eq_ok,
    check_eq_ok, require_eq_ok, state_set_eq_ok, not_or, not_not]
  constructor
  · rintro ⟨⟨hmajor, hid⟩, _, _, ⟨rfl, rfl⟩, _, _, ⟨⟨hframe, hle⟩, rfl⟩, flow, _, ⟨hflow, rfl⟩, _, _,
      ⟨hcapabilities, rfl⟩, _, _, ⟨hidle, rfl⟩, rfl⟩
    rw [FlowController.new, ite_throw_eq_ok] at hflow
    obtain ⟨hwindows, rfl⟩ := hflow
    simp only [not_or, gt_iff_lt, not_lt] at hwindows
    obtain ⟨hpeer, hown, hpeer', hown', hstreams⟩ := hwindows
    exact ⟨⟨hmajor, hid, hframe, hle, hcapabilities, hidle, ⟨hpeer, hpeer'⟩, ⟨hown, hown'⟩,
      hstreams⟩, rfl⟩
  · rintro ⟨h, rfl⟩
    exact ⟨⟨h.major, h.sessionId⟩, _, _, ⟨rfl, rfl⟩, (), _, ⟨⟨h.frame, h.frame_le⟩, rfl⟩, _, _,
      ⟨h.new_flow, rfl⟩, (), _, ⟨h.capabilities, rfl⟩, (), _, ⟨h.idle, rfl⟩, rfl⟩

lemma configured_of_negotiated (h : configureNegotiated parameters s = .ok u t)
    (hsmallest : minNegotiableFrameSize ≤ parameters.maximumFrameSize)
    (hlargest : s.limits.maximumFrameSize ≤ absoluteMaxFrameSize)
    (hcounts : s.nextSendSequence ≠ 0) (hcounted : s.nextSendSequence ≤ u64Max) :
    t.Configured := by
  obtain ⟨hn, rfl⟩ := configureNegotiated_iff.mp h
  exact ⟨hn.major, hn.sessionId, hsmallest, hn.frame_le.trans hlargest, hcounts, hcounted⟩

lemma Ready.counted (h : s.Ready) : s.counted.Ready :=
  ⟨⟨h.handshaking, h.control, h.active, h.queuedBytes⟩, h.controlFrames, h.version, h.largest,
    h.counts, h.sequence⟩

lemma Ready.sent (h : s.Ready) (hnext : s.nextSendSequence + 1 < u64Max) : s.sent.Ready :=
  ⟨h.toQuiet.sent, h.controlFrames, h.version, h.largest, Nat.succ_ne_zero _, hnext⟩

lemma Ready.negotiated (h : s.Ready) (hn : s.Negotiates parameters)
    (hlargest : s.limits.maximumFrameSize ≤ absoluteMaxFrameSize)
    (hphase : (s.negotiated parameters).Handshaking) : (s.negotiated parameters).Ready :=
  ⟨⟨hphase, h.control, h.active, h.queuedBytes⟩, h.controlFrames, hn.major,
    hn.frame_le.trans hlargest, h.counts, h.sequence⟩

def established (s : Session) (granted : List String) : Session :=
  { s with
    enabledCapabilities := granted
    phase := .active }

lemma markActive_eq_ok :
    markActive s = .ok u t ↔
      (s.phase = .awaitingAuthentication ∨ s.phase = .awaitingAuthenticationResult) ∧
        t = { s with phase := .active } := by
  simp only [markActive, state_bind_eq_ok, state_get_eq_ok]
  constructor
  · rintro ⟨_, _, ⟨rfl, rfl⟩, h⟩
    split_ifs at h with hphase
    · rw [state_set_eq_ok] at h
      exact ⟨hphase, h.symm⟩
    · cases h
  · rintro ⟨hphase, rfl⟩
    refine ⟨s, s, ⟨rfl, rfl⟩, ?_⟩
    rw [if_pos hphase, state_set_eq_ok]

lemma setGrantedCapabilities_eq_ok {granted : List String} :
    setGrantedCapabilities granted s = .ok u t ↔ validateCapabilities granted = .ok () ∧
      (granted.Nodup ∧ ∀ capability ∈ granted, capability ∈ s.enabledCapabilities) ∧
      t = { s with enabledCapabilities := granted } := by
  simp only [setGrantedCapabilities, state_bind_eq_ok, check_eq_ok, state_get_eq_ok,
    state_guard_eq_ok, state_set_eq_ok, not_or, not_not, not_exists, not_and]
  constructor
  · rintro ⟨_, _, ⟨hvalid, rfl⟩, _, _, ⟨rfl, rfl⟩, hgranted, rfl⟩
    exact ⟨hvalid, hgranted, rfl⟩
  · rintro ⟨hvalid, hgranted, rfl⟩
    exact ⟨(), s, ⟨hvalid, rfl⟩, s, s, ⟨rfl, rfl⟩, hgranted, rfl⟩

structure Grants (s : Session) (granted : List String) : Prop where
  phase : s.phase = .awaitingAuthentication ∨ s.phase = .awaitingAuthenticationResult
  valid : validateCapabilities granted = .ok ()
  nodup : granted.Nodup
  enabled : ∀ capability ∈ granted, capability ∈ s.enabledCapabilities

end Session

variable {body : Body}

section Client

def authenticateOf (material : AuthenticationMaterial) (binding : Block 32) : Authenticate where
  anonymousCapabilityToken := material.anonymousCapabilityToken
  proofOfPossession := material.proofOfPossession
  sessionNonceBinding := binding

@[ext] structure ClientRun where
  nonce : Block 32
  initial : ProtocolVersion
  helloFrame : GatewayFrame
  serverHello : ServerHello
  selected : ProtocolVersion
  binding : Block 32
  material : AuthenticationMaterial
  resultFrame : GatewayFrame
  result : AuthenticationResult

namespace ClientRun

variable (run : ClientRun) (config : ClientConfig)

def opened : Session :=
  .opening .client .awaitingServerHello config.limits run.initial

def configured : Session :=
  (run.opened config).sent.counted.negotiated (config.parameters run.serverHello run.selected)

def greeting : Body :=
  .clientHello (config.hello run.nonce)

def authentication : Body :=
  .authenticate (authenticateOf run.material run.binding)

def transfers : List (Transfer GatewayFrame) :=
  [.sent ((run.opened config).frameOf (run.greeting config)), .received run.helloFrame,
    .sent ((run.configured config).frameOf run.authentication), .received run.resultFrame]

def reference : Reference where
  session := (run.configured config).sent.counted.established run.result.grantedCapabilities
  grantedCapabilities := run.result.grantedCapabilities

structure Connects (sha256 : Bytes → Block 32)
    (authenticator : Block 32 → Result AuthenticationMaterial) : Prop where
  limits : config.limits.validate = .ok ()
  initial : config.supportedVersions.maximum = some run.initial
  major : run.initial.major ≠ 0
  greets : (run.opened config).CanSend (run.greeting config)
  hello : (run.opened config).sent.Admissible run.helloFrame
  serverHello : run.helloFrame.body = some (.serverHello run.serverHello)
  echoed : run.serverHello.echoedClientNonce = run.nonce
  selected : run.serverHello.selectedVersion = some run.selected
  overlap : ∃ range, run.serverHello.supportedVersions = some range ∧
    Overlap config.supportedVersions range run.selected
  enabled :
    verifyEnabledCapabilities config.capabilities run.serverHello.enabledCapabilities = .ok ()
  negotiates : (run.opened config).sent.counted.Negotiates
    (config.parameters run.serverHello run.selected)
  binding : sessionNonceBinding sha256 run.nonce run.serverHello.serverNonce
    run.serverHello.ephemeralSessionId run.selected = .ok run.binding
  material : authenticator run.binding = .ok run.material
  authenticates : (run.configured config).CanSend run.authentication
  answer : (run.configured config).sent.Admissible run.resultFrame
  result : run.resultFrame.body = some (.authenticationResult run.result)
  accepted : run.result.accepted = true
  granted : verifyEnabledCapabilities run.serverHello.enabledCapabilities
    run.result.grantedCapabilities = .ok ()
  grants : (run.configured config).sent.counted.Grants run.result.grantedCapabilities

end ClientRun

lemma expectServerHello_eq_ok {serverHello : ServerHello} :
    expectServerHello body = .ok serverHello ↔ body = .serverHello serverHello := by
  cases body with
  | serverHello message => simp [expectServerHello, pure_eq_ok]
  | error message =>
    rw [expectServerHello]
    split_ifs <;> simp
  | _ => simp [expectServerHello, throw_eq_ok]

lemma expectAuthenticationResult_eq_ok {result : AuthenticationResult} :
    expectAuthenticationResult body = .ok result ↔ body = .authenticationResult result := by
  cases body <;> simp [expectAuthenticationResult, pure_eq_ok, throw_eq_ok]

variable {sha256 : Bytes → Block 32} {config : ClientConfig} {entropy : Option (Block 32)}
  {authenticator : Block 32 → Result AuthenticationMaterial} {ts : List (Transfer GatewayFrame)}
  {reference : Reference}

lemma exists_connects (h : Completes (connectInner sha256 config entropy authenticator) ts reference) :
    ∃ run : ClientRun, entropy = some run.nonce ∧ run.Connects config sha256 authenticator ∧
      ts = run.transfers config ∧ reference = run.reference config := by
  simp only [connectInner, completes_lift_bind, okOr_eq_ok] at h
  obtain ⟨_, hlimits, initial, hinitial, nonce, rfl, _, -, session, hnew, hgreet⟩ := h
  obtain ⟨-, hmajor, rfl⟩ := new_eq_ok.mp hnew
  have hopened : (opening .client .awaitingServerHello config.limits initial).Ready :=
    ready_opening hlimits hmajor (.inl rfl)
  obtain ⟨hgreets, rest, rfl, hread⟩ := (completes_send_bind hopened).mp hgreet
  obtain ⟨helloFrame, rest, body, t, rfl, hreceive, hverify⟩ := completes_next_bind.mp hread
  simp only [completes_lift_bind, okOr_eq_ok, completes_guard, expectServerHello_eq_ok, not_not,
    verifyServerSelection_eq_ok, Prod.exists, perform_eq_ok,
    configureNegotiated_iff] at hverify
  obtain ⟨serverHello, rfl, hechoed, range, hrange, selected, hselected, _, hoverlap, _, henabled,
    _, _, ⟨hnegotiates, rfl⟩, binding, hbinding, material, hmaterial, hauthenticate⟩ := hverify
  have hhello : (opening .client .awaitingServerHello config.limits initial).sent.Expects
      (.serverHello serverHello) := rfl
  obtain ⟨hadmissible, hbody, rfl⟩ := hhello.receive.mp hreceive
  have hconfigured := (hopened.sent (by decide : 1 + 1 < u64Max)).counted.negotiated hnegotiates
    (validate_eq_ok.mp hlimits).1.2 (.inr (.inr (.inr rfl)))
  obtain ⟨hauthenticates, rest, rfl, hlast⟩ :=
    (completes_send_bind hconfigured).mp hauthenticate
  obtain ⟨resultFrame, rest, body, t, rfl, hanswer, hresult⟩ := completes_next_bind.mp hlast
  simp only [completes_lift_bind, completes_guard, expectAuthenticationResult_eq_ok, not_not,
    Prod.exists, perform_eq_ok, setGrantedCapabilities_eq_ok,
    markActive_eq_ok, completes_pure] at hresult
  obtain ⟨result, rfl, haccepted, _, hgranted, _, _, ⟨hvalid, ⟨hnodup, hsubset⟩, rfl⟩,
    _, _, ⟨hphase, rfl⟩, rfl, rfl⟩ := hresult
  have hresult : (opening .client .awaitingServerHello config.limits initial).sent.counted
      |>.negotiated (config.parameters serverHello selected) |>.sent.Expects
      (.authenticationResult result) := rfl
  obtain ⟨hadmissible', hbody', rfl⟩ := hresult.receive.mp hanswer
  exact ⟨⟨nonce, initial, helloFrame, serverHello, selected, binding, material, resultFrame, result⟩,
    rfl, ⟨hlimits, hinitial, hmajor, hgreets, hadmissible, hbody, hechoed, hselected,
      ⟨range, hrange, hoverlap⟩, henabled, hnegotiates, hbinding, hmaterial, hauthenticates,
      hadmissible', hbody', haccepted, hgranted, hphase, hvalid, hnodup, hsubset⟩, rfl, rfl⟩

lemma ClientRun.Connects.completes {run : ClientRun} (h : run.Connects config sha256 authenticator) :
    Completes (connectInner sha256 config (some run.nonce) authenticator) (run.transfers config)
      (run.reference config) := by
  have hopened : (run.opened config).Ready := ready_opening h.limits h.major (.inl rfl)
  have hconfigured : (run.configured config).Ready :=
    (hopened.sent (by decide : 1 + 1 < u64Max)).counted.negotiated h.negotiates
      (validate_eq_ok.mp h.limits).1.2 (.inr (.inr (.inr rfl)))
  have hhello : (run.opened config).sent.Expects (.serverHello run.serverHello) := rfl
  have hresult : (run.configured config).sent.Expects (.authenticationResult run.result) := rfl
  obtain ⟨range, hrange, hoverlap⟩ := h.overlap
  simp only [connectInner, completes_lift_bind, okOr_eq_ok]
  refine ⟨(), h.limits, run.initial, h.initial, run.nonce, rfl, (), h.greets.valid, run.opened config,
    new_eq_ok.mpr ⟨h.limits, h.major, rfl⟩, ?_⟩
  refine (completes_send_bind hopened).mpr ⟨h.greets, _, rfl, ?_⟩
  refine completes_next_bind.mpr ⟨run.helloFrame, _, _, _, rfl,
    hhello.receive.mpr ⟨h.hello, h.serverHello, rfl⟩, ?_⟩
  simp only [completes_lift_bind, okOr_eq_ok, completes_guard, expectServerHello_eq_ok, not_not,
    verifyServerSelection_eq_ok, Prod.exists, perform_eq_ok,
    configureNegotiated_iff]
  refine ⟨run.serverHello, rfl, h.echoed, range, hrange, run.selected, h.selected, (), hoverlap,
    (), h.enabled, (), run.configured config, ⟨h.negotiates, rfl⟩, run.binding, h.binding,
    run.material, h.material, ?_⟩
  refine (completes_send_bind hconfigured).mpr ⟨h.authenticates, _, rfl, ?_⟩
  refine completes_next_bind.mpr ⟨run.resultFrame, _, _, _, rfl,
    hresult.receive.mpr ⟨h.answer, h.result, rfl⟩, ?_⟩
  simp only [completes_lift_bind, completes_guard, expectAuthenticationResult_eq_ok, not_not,
    Prod.exists, perform_eq_ok, setGrantedCapabilities_eq_ok,
    markActive_eq_ok, completes_pure]
  exact ⟨run.result, rfl, h.accepted, (), h.granted, (), _,
    ⟨h.grants.valid, ⟨h.grants.nodup, h.grants.enabled⟩, rfl⟩, (), _, ⟨h.grants.phase, rfl⟩, rfl,
    trivial⟩

end Client

section Server

@[ext] structure ServerRun where
  initial : ProtocolVersion
  helloFrame : GatewayFrame
  clientHello : ClientHello
  selected : ProtocolVersion
  enabledCapabilities : List String
  serverNonce : Block 32
  sessionId : Block 16
  idleTimeoutMs : UInt32
  authenticateFrame : GatewayFrame
  authenticate : Authenticate
  binding : Block 32
  decision : AuthenticationDecision

namespace ServerRun

variable (run : ServerRun) (config : ServerConfig)

def opened : Session :=
  .opening .server .awaitingClientHello config.limits run.initial

def configured : Session :=
  (run.opened config).counted.negotiated
    (config.parameters run.clientHello run.selected run.enabledCapabilities run.sessionId)

def serverHello : ServerHello :=
  config.hello run.clientHello run.selected run.enabledCapabilities run.serverNonce run.sessionId
    run.idleTimeoutMs

def greeting : Body :=
  .serverHello (run.serverHello config)

def answer : Body :=
  .authenticationResult (authenticationResult run.decision)

def transfers : List (Transfer GatewayFrame) :=
  [.received run.helloFrame, .sent ((run.configured config).frameOf (run.greeting config)),
    .received run.authenticateFrame,
    .sent ((run.configured config).sent.counted.frameOf run.answer)]

def reference : Reference where
  session := (run.configured config).sent.counted.sent.established run.decision.grantedCapabilities
  grantedCapabilities := run.decision.grantedCapabilities

structure Accepts (sha256 : Bytes → Block 32)
    (verifier : Bytes → Bytes → Block 32 → Result AuthenticationDecision) : Prop where
  limits : config.limits.validate = .ok ()
  lifetime : config.sessionTtlSeconds ≠ 0 ∧ config.sessionTtlSeconds ≤ maxSessionTtlSeconds
  initial : config.supportedVersions.maximum = some run.initial
  major : run.initial.major ≠ 0
  hello : (run.opened config).Admissible run.helloFrame
  clientHello : run.helloFrame.body = some (.clientHello run.clientHello)
  overlap : ∃ range, run.clientHello.supportedVersions = some range ∧
    Overlap range config.supportedVersions run.selected
  enabled : negotiateCapabilities run.clientHello.clientCapabilities config.supportedCapabilities =
    .ok run.enabledCapabilities
  idle : asMillis config.limits.idleStreamTimeout = .ok run.idleTimeoutMs
  negotiates : (run.opened config).counted.Negotiates
    (config.parameters run.clientHello run.selected run.enabledCapabilities run.sessionId)
  greets : (run.configured config).CanSend (run.greeting config)
  authenticates : (run.configured config).sent.Admissible run.authenticateFrame
  authenticate : run.authenticateFrame.body = some (.authenticate run.authenticate)
  binding : sessionNonceBinding sha256 run.clientHello.sessionNonce run.serverNonce run.sessionId
    run.selected = .ok run.binding
  bound : run.authenticate.sessionNonceBinding = run.binding
  decision : verifier run.authenticate.anonymousCapabilityToken run.authenticate.proofOfPossession
    run.binding = .ok run.decision
  accepted : run.decision.accepted = true
  granted : verifyEnabledCapabilities run.enabledCapabilities run.decision.grantedCapabilities =
    .ok ()
  expires : 0 < run.decision.expiresAtUnixSeconds
  answers : (run.configured config).sent.counted.CanSend run.answer
  grants : (run.configured config).sent.counted.sent.Grants run.decision.grantedCapabilities

end ServerRun

lemma expectClientHello_eq_ok {clientHello : ClientHello} :
    expectClientHello body = .ok clientHello ↔ body = .clientHello clientHello := by
  cases body <;> simp [expectClientHello, pure_eq_ok, throw_eq_ok]

variable {authenticate : Authenticate}

lemma expectAuthenticate_eq_ok :
    expectAuthenticate body = .ok authenticate ↔ body = .authenticate authenticate := by
  cases body <;> simp [expectAuthenticate, pure_eq_ok, throw_eq_ok]

variable {α β : Type} {ts : List (Transfer GatewayFrame)}

lemma completes_orIncompatible_bind {result : Result α} {correlationId : Option (Block 16)}
    {s : Session} {f : α → Peer β} {b : β} :
    Completes (orIncompatible result correlationId s >>= f) ts b ↔
      ∃ a, result = .ok a ∧ Completes (f a) ts b := by
  cases result with
  | ok a =>
    rw [orIncompatible, completes_bind]
    simp [completes_pure]
  | error e =>
    rw [orIncompatible, completes_bind]
    simp [completes_bind, completes_throw]

lemma completes_checkBinding_bind {expectedBinding : Block 32} {s : Session} {f : Unit → Peer β}
    {b : β} :
    Completes (checkBinding authenticate expectedBinding s >>= f) ts b ↔
      authenticate.sessionNonceBinding = expectedBinding ∧ Completes (f ()) ts b := by
  rw [checkBinding, completes_bind]
  by_cases hbound : authenticate.sessionNonceBinding = expectedBinding
  · simp [hbound, completes_pure, Unique.exists_iff]
  · simp [hbound, completes_bind, completes_throw]

lemma checkDecision_eq_ok {enabledCapabilities : List String} {decision : AuthenticationDecision}
    (h : decision.accepted = true) :
    checkDecision enabledCapabilities decision = .ok u ↔
      verifyEnabledCapabilities enabledCapabilities decision.grantedCapabilities = .ok () ∧
        0 < decision.expiresAtUnixSeconds := by
  simp only [checkDecision, h, if_true, bind_eq_ok, require_eq_ok, Unique.exists_iff,
    PUnit.default_eq_unit]

variable {sha256 : Bytes → Block 32} {config : ServerConfig} {entropy : ServerEntropy}
  {verifier : Bytes → Bytes → Block 32 → Result AuthenticationDecision} {reference : Reference}

lemma exists_accepts (h : Completes (acceptInner sha256 config entropy verifier) ts reference) :
    ∃ run : ServerRun, entropy.serverNonce = some run.serverNonce ∧
      entropy.sessionId = some run.sessionId ∧ run.Accepts config sha256 verifier ∧
      ts = run.transfers config ∧ reference = run.reference config := by
  simp only [acceptInner, completes_lift_bind, okOr_eq_ok, require_eq_ok] at h
  obtain ⟨_, hlimits, _, hlifetime, initial, hinitial, session, hnew, hread⟩ := h
  obtain ⟨-, hmajor, rfl⟩ := new_eq_ok.mp hnew
  have hopened : (opening .server .awaitingClientHello config.limits initial).Ready :=
    ready_opening hlimits hmajor (.inr (.inl rfl))
  obtain ⟨helloFrame, rest, body, t, rfl, hreceive, hnegotiate⟩ :=
    completes_next_bind.mp hread
  simp only [completes_lift_bind, okOr_eq_ok, completes_orIncompatible_bind, Prod.exists,
    selectVersion_eq_ok, expectClientHello_eq_ok, perform_eq_ok,
    configureNegotiated_iff] at hnegotiate
  obtain ⟨clientHello, rfl, range, hrange, selected, hoverlap, enabledCapabilities, henabled,
    serverNonce, hnonce, sessionId, hid, idleTimeoutMs, hidle, _, _, ⟨hnegotiates, rfl⟩,
    hgreet⟩ := hnegotiate
  have hhello : (opening .server .awaitingClientHello config.limits initial).Expects
      (.clientHello clientHello) := rfl
  obtain ⟨hadmissible, hbody, rfl⟩ := hhello.receive.mp hreceive
  have hconfigured := hopened.counted.negotiated hnegotiates
    (validate_eq_ok.mp hlimits).1.2 (.inr (.inr (.inl rfl)))
  obtain ⟨hgreets, rest, rfl, hlast⟩ := (completes_send_bind hconfigured).mp hgreet
  obtain ⟨authenticateFrame, rest, body, t, rfl, hanswer, hverify⟩ :=
    completes_next_bind.mp hlast
  simp only [completes_lift_bind, completes_checkBinding_bind, expectAuthenticate_eq_ok,
    sendAuthenticationResult] at hverify
  obtain ⟨authenticate, rfl, binding, hbinding, hbound, decision, hdecision, _, hcheck,
    hsend⟩ := hverify
  have hauthenticate : (opening .server .awaitingClientHello config.limits initial).counted
      |>.negotiated (config.parameters clientHello selected enabledCapabilities sessionId)
      |>.sent.Expects (.authenticate authenticate) := rfl
  obtain ⟨hadmissible', hbody', rfl⟩ := hauthenticate.receive.mp hanswer
  have hanswering := (hconfigured.sent (by decide : 1 + 1 < u64Max)).counted
  obtain ⟨hanswers, rest, rfl, hend⟩ := (completes_send_bind hanswering).mp hsend
  simp only [completes_lift_bind, completes_guard, not_not, Prod.exists, perform_eq_ok,
    setGrantedCapabilities_eq_ok, markActive_eq_ok, completes_pure] at hend
  obtain ⟨haccepted, _, _, ⟨hvalid, ⟨hnodup, hsubset⟩, rfl⟩, _, _, ⟨hphase, rfl⟩, rfl, rfl⟩ := hend
  obtain ⟨hgranted, hexpires⟩ := (checkDecision_eq_ok haccepted).mp hcheck
  exact ⟨⟨initial, helloFrame, clientHello, selected, enabledCapabilities, serverNonce, sessionId,
      idleTimeoutMs, authenticateFrame, authenticate, binding, decision⟩, hnonce, hid,
    ⟨hlimits, hlifetime, hinitial, hmajor, hadmissible, hbody, ⟨range, hrange, hoverlap⟩, henabled,
      hidle, hnegotiates, hgreets, hadmissible', hbody', hbinding, hbound, hdecision, haccepted,
      hgranted, hexpires, hanswers, hphase, hvalid, hnodup, hsubset⟩, rfl, rfl⟩

lemma ServerRun.Accepts.completes {run : ServerRun} (h : run.Accepts config sha256 verifier)
    (hnonce : entropy.serverNonce = some run.serverNonce)
    (hid : entropy.sessionId = some run.sessionId) :
    Completes (acceptInner sha256 config entropy verifier) (run.transfers config)
      (run.reference config) := by
  have hopened : (run.opened config).Ready :=
    ready_opening h.limits h.major (.inr (.inl rfl))
  have hconfigured : (run.configured config).Ready := hopened.counted.negotiated h.negotiates
    (validate_eq_ok.mp h.limits).1.2 (.inr (.inr (.inl rfl)))
  have hanswering := (hconfigured.sent (by decide : 1 + 1 < u64Max)).counted
  have hhello : (run.opened config).Expects (.clientHello run.clientHello) := rfl
  have hauthenticate : (run.configured config).sent.Expects (.authenticate run.authenticate) := rfl
  obtain ⟨range, hrange, hoverlap⟩ := h.overlap
  simp only [acceptInner, completes_lift_bind, okOr_eq_ok, require_eq_ok]
  refine ⟨(), h.limits, (), h.lifetime, run.initial, h.initial, run.opened config,
    new_eq_ok.mpr ⟨h.limits, h.major, rfl⟩, ?_⟩
  refine completes_next_bind.mpr ⟨run.helloFrame, _, _, _, rfl,
    hhello.receive.mpr ⟨h.hello, h.clientHello, rfl⟩, ?_⟩
  simp only [completes_lift_bind, okOr_eq_ok, completes_orIncompatible_bind, Prod.exists,
    selectVersion_eq_ok, expectClientHello_eq_ok, perform_eq_ok,
    configureNegotiated_iff]
  refine ⟨run.clientHello, rfl, range, hrange, run.selected, hoverlap, run.enabledCapabilities,
    h.enabled, run.serverNonce, hnonce, run.sessionId, hid, run.idleTimeoutMs, h.idle, (),
    run.configured config, ⟨h.negotiates, rfl⟩, ?_⟩
  refine (completes_send_bind hconfigured).mpr ⟨h.greets, _, rfl, ?_⟩
  refine completes_next_bind.mpr ⟨run.authenticateFrame, _, _, _, rfl,
    hauthenticate.receive.mpr ⟨h.authenticates, h.authenticate, rfl⟩, ?_⟩
  simp only [completes_lift_bind, completes_checkBinding_bind, expectAuthenticate_eq_ok,
    sendAuthenticationResult]
  refine ⟨run.authenticate, rfl, run.binding, h.binding, h.bound, run.decision, h.decision, (),
    (checkDecision_eq_ok h.accepted).mpr ⟨h.granted, h.expires⟩, ?_⟩
  refine (completes_send_bind hanswering).mpr ⟨h.answers, _, rfl, ?_⟩
  simp only [completes_lift_bind, completes_guard, not_not, Prod.exists, perform_eq_ok,
    setGrantedCapabilities_eq_ok, markActive_eq_ok, completes_pure]
  exact ⟨h.accepted, (), _, ⟨h.grants.valid, ⟨h.grants.nodup, h.grants.enabled⟩, rfl⟩, (), _,
    ⟨h.grants.phase, rfl⟩, rfl, trivial⟩

end Server

end OnionRoute.GatewayProtocol
