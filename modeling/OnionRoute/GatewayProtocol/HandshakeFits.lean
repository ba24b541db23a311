import OnionRoute.GatewayProtocol.HandshakeEnds

/-! When the two ends, run against each other, both end with a session. -/

namespace OnionRoute.GatewayProtocol

open Library Process ProtocolLimits ServerConfig

structure Matched (client : ClientConfig) (server : ServerConfig) (c : ClientRun) (s : ServerRun) :
    Prop where
  greeting : s.helloFrame = (c.opened client).frameOf (c.greeting client)
  hello : c.helloFrame = (s.configured server).frameOf (s.greeting server)
  authentication : s.authenticateFrame = (c.configured client).frameOf c.authentication
  answer : c.resultFrame = (s.configured server).sent.counted.frameOf s.answer

section Matched

variable {sha256 : Bytes → Block 32} {client : ClientConfig} {server : ServerConfig}
  {authenticator : Block 32 → Result AuthenticationMaterial}
  {verifier : Bytes → Bytes → Block 32 → Result AuthenticationDecision}

lemma matched_of_reaches {clientEntropy : Option (Block 32)} {serverEntropy : ServerEntropy}
    {c s : Reference} {l r : List GatewayFrame}
    (h : Exchange.Reaches ⟨connectInner sha256 client clientEntropy authenticator,
      acceptInner sha256 server serverEntropy verifier, [], []⟩
      ⟨.ends (.ok c), .ends (.ok s), l, r⟩) :
    ∃ cr sr, (clientEntropy = some cr.nonce ∧ serverEntropy.serverNonce = some sr.serverNonce ∧
        serverEntropy.sessionId = some sr.sessionId) ∧
      ClientRun.Connects cr client sha256 authenticator ∧
      ServerRun.Accepts sr server sha256 verifier ∧ Matched client server cr sr ∧
      c = cr.reference client ∧ s = sr.reference server := by
  obtain ⟨ts, us, hleft, hright, htoLeft, htoRight⟩ := h.completes
  obtain ⟨cr, hnonce, hconnects, rfl, rfl⟩ := exists_connects hleft
  obtain ⟨sr, hserver, hid, haccepts, rfl, rfl⟩ := exists_accepts hright
  simp only [ClientRun.transfers, ServerRun.transfers, List.filterMap_cons, Transfer.outgoing,
    Transfer.incoming, List.filterMap_nil, List.nil_append, List.cons_append, List.cons.injEq]
    at htoLeft htoRight
  exact ⟨cr, sr, ⟨hnonce, hserver, hid⟩, hconnects, haccepts, ⟨htoRight.1.symm, htoLeft.1.symm,
    htoRight.2.1.symm, htoLeft.2.1.symm⟩, rfl, rfl⟩

variable {c : ClientRun} {s : ServerRun} (h : Matched client server c s)
include h

lemma Matched.clientHello (hs : s.Accepts server sha256 verifier) :
    s.clientHello = client.hello c.nonce := by
  have hbody := hs.clientHello
  rw [h.greeting] at hbody
  exact (Body.clientHello.inj (Option.some.inj hbody)).symm

lemma Matched.serverHello (hc : c.Connects client sha256 authenticator) :
    c.serverHello = s.serverHello server := by
  have hbody := hc.serverHello
  rw [h.hello] at hbody
  exact (Body.serverHello.inj (Option.some.inj hbody)).symm

lemma Matched.clientWindow (hs : s.Accepts server sha256 verifier) :
    s.clientHello.initialConnectionReceiveWindow.toNat =
      client.limits.initialConnectionWindow.toNat := by
  rw [h.clientHello hs]
  rfl

lemma Matched.serverWindow (hc : c.Connects client sha256 authenticator) :
    c.serverHello.initialConnectionReceiveWindow.toNat =
      server.limits.initialConnectionWindow.toNat := by
  rw [h.serverHello hc]
  rfl

lemma Matched.selected (hc : c.Connects client sha256 authenticator) : c.selected = s.selected := by
  have hselected := hc.selected
  rw [h.serverHello hc] at hselected
  exact (Option.some.inj hselected).symm

lemma Matched.authenticate (hs : s.Accepts server sha256 verifier) :
    s.authenticate = authenticateOf c.material c.binding := by
  have hbody := hs.authenticate
  rw [h.authentication] at hbody
  exact (Body.authenticate.inj (Option.some.inj hbody)).symm

lemma Matched.result (hc : c.Connects client sha256 authenticator) :
    c.result = authenticationResult s.decision := by
  have hbody := hc.result
  rw [h.answer] at hbody
  exact (Body.authenticationResult.inj (Option.some.inj hbody)).symm

end Matched

structure Handshake where
  client : ClientConfig
  server : ServerConfig
  clientNonce : Block 32
  serverNonce : Block 32
  sessionId : Block 16
  version : ProtocolVersion
  material : AuthenticationMaterial
  decision : AuthenticationDecision

namespace Handshake

variable (h : Handshake) (sha256 : Bytes → Block 32)

def binding : Block 32 :=
  sha256 (bindingTranscript h.clientNonce h.serverNonce h.sessionId h.version)

def enabled : List String :=
  (h.client.capabilities.map requestedName).filter (· ∈ h.server.supportedCapabilities)

def idleMillis : ℕ :=
  h.server.limits.idleStreamTimeout / 1000000

def clientHello : Body :=
  .clientHello (h.client.hello h.clientNonce)

def serverHello : ServerHello :=
  h.server.hello (h.client.hello h.clientNonce) h.version h.enabled h.serverNonce h.sessionId
    (UInt32.ofNat h.idleMillis)

def authenticate : Body :=
  .authenticate (authenticateOf h.material (h.binding sha256))

def result : Body :=
  .authenticationResult (authenticationResult h.decision)

def frameSize : ℕ :=
  min h.client.limits.maximumFrameSize h.server.limits.maximumFrameSize

def frame (sequence : ℕ) (body : Body) : GatewayFrame where
  sequence
  version := some h.version
  criticalExtensionIds := []
  sessionId := h.sessionId
  body := some body

def helloFrame : GatewayFrame where
  sequence := 1
  version := h.client.supportedVersions.maximum
  criticalExtensionIds := []
  sessionId := []
  body := some h.clientHello

/-- Limits that validate, versions that overlap, capabilities that the server has, and a token that
the verifier accepts. -/
structure Given (authenticator : Block 32 → Result AuthenticationMaterial)
    (verifier : Bytes → Bytes → Block 32 → Result AuthenticationDecision) : Prop where
  clientLimits : h.client.limits.validate = .ok ()
  serverLimits : h.server.limits.validate = .ok ()
  overlap : Overlap h.client.supportedVersions h.server.supportedVersions h.version
  required : ∀ value ∈ h.client.capabilities, ∀ name, stripRequired value = some name →
    name ∈ h.server.supportedCapabilities
  material : authenticator (h.binding sha256) = .ok h.material
  token : h.material.anonymousCapabilityToken.length ≤ maxCapabilityToken
  proof : h.material.proofOfPossession.length ≤ maxProofOfPossession
  decision : verifier h.material.anonymousCapabilityToken h.material.proofOfPossession
    (h.binding sha256) = .ok h.decision
  accepted : h.decision.accepted = true

structure Fits : Prop where
  mode : h.client.anonymityMode ≠ .unspecified ∧ h.client.anonymityMode ≠ .directTor
  country : validateCountry h.client.desiredCountry = .ok ()
  capabilities : validateCapabilities h.client.capabilities = .ok ()
  distinct : (h.client.capabilities.map requestedName).Nodup
  enabled : validateCapabilities h.enabled = .ok ()
  lifetime : h.server.sessionTtlSeconds ≠ 0 ∧ h.server.sessionTtlSeconds ≤ maxSessionTtlSeconds
  idle : 1 ≤ h.idleMillis ∧ h.idleMillis ≤ 3600000
  token : h.material.anonymousCapabilityToken ≠ []
  granted : verifyEnabledCapabilities h.enabled h.decision.grantedCapabilities = .ok ()
  grantedEnabled : ∀ name ∈ h.decision.grantedCapabilities, name ∈ h.enabled
  expires : 0 < h.decision.expiresAtUnixSeconds
  clientQueue : queueCost h.clientHello ≤ h.client.limits.maximumQueuedBytes ∧
    queueCost (h.authenticate sha256) ≤ h.client.limits.maximumQueuedBytes
  serverQueue : queueCost (.serverHello h.serverHello) ≤ h.server.limits.maximumQueuedBytes ∧
    queueCost h.result ≤ h.server.limits.maximumQueuedBytes
  helloFrame : h.helloFrame.encodedLen ≤ h.frameSize
  serverHelloFrame : (h.frame 1 (.serverHello h.serverHello)).encodedLen ≤ h.frameSize
  authenticateFrame : (h.frame 2 (h.authenticate sha256)).encodedLen ≤ h.frameSize
  resultFrame : (h.frame 2 h.result).encodedLen ≤ h.frameSize

end Handshake

variable {version : ProtocolVersion} {client server : ProtocolVersionRange}

lemma Overlap.symm (h : Overlap client server version) : Overlap server client version := by
  obtain ⟨clientMax, serverMax, hclient, hserver, hminor⟩ := h.highest
  refine ⟨h.serverValid, h.clientValid, h.major, serverMax, clientMax, hserver, hclient, ?_⟩
  rw [hminor, ← UInt32.toNat_inj, toNat_min, toNat_min, Nat.min_comm]

lemma Overlap.range (h : Overlap client server version) :
    ∃ range, validateVersionRange client = .ok range := by
  obtain ⟨low, hlow, hle⟩ := h.clientValid
  obtain ⟨high, serverMax, hhigh, -, hminor⟩ := h.highest
  refine ⟨(version.major, low, high), validateVersionRange_eq_ok.mpr ⟨hlow, hhigh, h.major, ?_⟩⟩
  rw [UInt32.le_iff_toNat_le, hminor, toNat_min] at hle
  rw [UInt32.le_iff_toNat_le]
  omega

lemma frameLimit_toNat {n : ℕ} (h : n ≤ absoluteMaxFrameSize) : (UInt32.ofNat n).toNat = n :=
  UInt32.toNat_ofNat_of_lt' (h.trans_lt (by decide))

lemma streamLimit_toNat {n : ℕ} (h : n ≤ maxConcurrentStreams) : (UInt32.ofNat n).toNat = n :=
  UInt32.toNat_ofNat_of_lt' (h.trans_lt (by decide))

lemma knownMode_eq_ok {mode known : AnonymityMode} {field : String} :
    knownNonzeroEnum AnonymityMode.tryFrom mode.toInt32 field = .ok known ↔
      mode ≠ .unspecified ∧ mode = known := by
  constructor
  · intro h
    cases mode <;> cases h <;> exact ⟨by decide, rfl⟩
  · rintro ⟨hmode, rfl⟩
    cases mode with
    | unspecified => exact absurd rfl hmode
    | _ => rfl

variable {range : UInt32 × UInt32 × UInt32} {u : Unit}

lemma validateClientHello_eq_ok {config : ClientConfig} {nonce : Block 32}
    (hlimits : config.limits.validate = .ok ())
    (hrange : validateVersionRange config.supportedVersions = .ok range) :
    validateClientHello (config.hello nonce) = .ok u ↔
      validateCapabilities config.capabilities = .ok () ∧
      (config.anonymityMode ≠ .unspecified ∧ config.anonymityMode ≠ .directTor) ∧
      validateCountry config.desiredCountry = .ok () := by
  obtain ⟨hframe, -, hconnection, hstream, -⟩ := validate_eq_ok.mp hlimits
  have hversions : (config.hello nonce).supportedVersions = some config.supportedVersions := rfl
  have hmode : (config.hello nonce).anonymityMode = config.anonymityMode.toInt32 := rfl
  have hsize : (config.hello nonce).maximumFrameSize.toNat = config.limits.maximumFrameSize :=
    frameLimit_toNat hframe.2
  simp only [validateClientHello, hversions, bind_eq_ok, hrange, hmode, knownMode_eq_ok, exactLength,
    validateFrameLimit, hsize, validateConnectionWindow, validateStreamWindow, require_eq_ok]
  constructor
  · rintro ⟨_, -, _, hcapabilities, _, ⟨hknown, rfl⟩, _, hmode, _, hcountry, -⟩
    exact ⟨hcapabilities, ⟨hknown, hmode⟩, hcountry⟩
  · rintro ⟨hcapabilities, ⟨hknown, hmode⟩, hcountry⟩
    exact ⟨range, rfl, (), hcapabilities, config.anonymityMode, ⟨hknown, rfl⟩, (), hmode, (), hcountry,
      (), nonce.2, (), hframe, (), hconnection, hstream⟩

lemma validateServerHello_eq_ok {config : ServerConfig} {clientHello : ClientHello}
    {enabled : List String} {serverNonce : Block 32} {sessionId : Block 16} {idleTimeoutMs : UInt32}
    (hlimits : config.limits.validate = .ok ())
    (hrange : validateVersionRange config.supportedVersions = .ok range)
    (hmajor : version.major ≠ 0) (hnonce : clientHello.sessionNonce.length = 32)
    (hframe : minNegotiableFrameSize ≤ clientHello.maximumFrameSize.toNat) :
    validateServerHello (config.hello clientHello version enabled serverNonce sessionId
        idleTimeoutMs) = .ok u ↔
      validateCapabilities enabled = .ok () ∧ (idleTimeoutMs ≠ 0 ∧ idleTimeoutMs ≤ 3600000) ∧
      config.sessionTtlSeconds ≠ 0 ∧ config.sessionTtlSeconds ≤ maxSessionTtlSeconds := by
  obtain ⟨hsize, hstreams, hconnection, hstream, -⟩ := validate_eq_ok.mp hlimits
  have hlargest : min config.limits.maximumFrameSize clientHello.maximumFrameSize.toNat ≤
      absoluteMaxFrameSize := (min_le_left _ _).trans hsize.2
  have hcount := streamLimit_toNat hstreams.2
  generalize hhello : config.hello clientHello version enabled serverNonce sessionId idleTimeoutMs =
    hello
  have hversions : hello.supportedVersions = some config.supportedVersions := by rw [← hhello]; rfl
  have hselected : hello.selectedVersion = some version := by rw [← hhello]; rfl
  simp only [validateServerHello, hversions, hselected, bind_eq_ok, hrange, exactLength,
    validateFrameLimit, validateConnectionWindow, validateStreamWindow, require_eq_ok]
  subst hhello
  constructor
  · rintro ⟨_, -, _, -, _, henabled, _, -, _, -, _, -, _, -, _, -, _, -, _, -, _, hidle, hlifetime⟩
    exact ⟨henabled, hidle, hlifetime⟩
  · rintro ⟨henabled, hidle, hlifetime⟩
    refine ⟨range, rfl, (), by simpa using hmajor, (), henabled, (), hnonce, (), serverNonce.2, (),
      sessionId.2, (), ?_, (), ⟨?_, ?_⟩, (), hconnection, (), hstream, (), hidle, hlifetime⟩
    · simp only [hello, frameLimit_toNat hlargest]
      exact ⟨le_min hsize.1 hframe, hlargest⟩
    · intro hzero
      have hnat := congrArg UInt32.toNat hzero
      simp only [hello, hcount] at hnat
      exact absurd hnat (Nat.ne_of_gt hstreams.1)
    · simp only [hello, hcount]
      exact hstreams.2

lemma validateAuthenticate_eq_ok {material : AuthenticationMaterial} {binding : Block 32}
    (htoken : material.anonymousCapabilityToken.length ≤ maxCapabilityToken)
    (hproof : material.proofOfPossession.length ≤ maxProofOfPossession) :
    validateAuthenticate (authenticateOf material binding) = .ok u ↔
      material.anonymousCapabilityToken ≠ [] := by
  simp only [validateAuthenticate, authenticateOf, boundedNonempty, boundedRange, exactLength,
    bind_eq_ok, require_eq_ok, htoken, hproof, binding.2, and_true, exists_const,
    Nat.one_le_iff_ne_zero, ne_eq, List.length_eq_zero_iff]

lemma validateAuthenticationResult_eq_ok {decision : AuthenticationDecision}
    (haccepted : decision.accepted = true) :
    validateAuthenticationResult (authenticationResult decision) = .ok u ↔
      validateCapabilities decision.grantedCapabilities = .ok () ∧
        0 < decision.expiresAtUnixSeconds := by
  have hcode : knownEnum ErrorCode.tryFrom ErrorCode.unspecified.toInt32 "authentication_error_code" =
      .ok .unspecified := rfl
  simp only [validateAuthenticationResult, authenticationResult, haccepted, if_true, bind_eq_ok, hcode,
    require_eq_ok, Except.ok.injEq, exists_eq_left', true_and, Unique.exists_iff,
    PUnit.default_eq_unit]

lemma asMillis_eq_ok {duration : ℕ} {millis : UInt32} :
    asMillis duration = .ok millis ↔
      duration / 1000000 < UInt32.size ∧ UInt32.ofNat (duration / 1000000) = millis := by
  simp only [asMillis, bind_eq_ok, require_eq_ok, pure_eq_ok, exists_const]

lemma Session.admissible_iff {s : Session} {frame : GatewayFrame} {body : Body}
    (hids : frame.criticalExtensionIds = []) (hbody : frame.body = some body)
    (hlargest : s.maximumFrameSize ≤ absoluteMaxFrameSize) :
    s.Admissible frame ↔
      (frame.encodedLen ≠ 0 ∧ frame.encodedLen ≤ s.maximumFrameSize) ∧
      (frame.sequence ≠ 0 ∧ (frame.version.any fun version => version.major ≠ 0) = true ∧
        validateBody body = .ok ()) ∧
      frame.sequence = s.nextReceiveSequence ∧ s.nextReceiveSequence + 1 ≤ u64Max ∧
      s.counted.validateFrameContext frame = .ok () := by
  rw [← checkFrameSize_eq_ok hlargest, ← validateFrame_eq_ok hids hbody]
  exact ⟨fun h => ⟨h.size, h.valid, h.sequence, h.room, h.context⟩,
    fun ⟨hsize, hvalid, hsequence, hroom, hcontext⟩ => ⟨hsize, hvalid, hsequence, hroom, hcontext⟩⟩

namespace Handshake

variable {h : Handshake} {sha256 : Bytes → Block 32}
  {authenticator : Block 32 → Result AuthenticationMaterial}
  {verifier : Bytes → Bytes → Block 32 → Result AuthenticationDecision}

section Given

variable (g : h.Given sha256 authenticator verifier)

include g

lemma Given.clientSize :
    (h.client.hello h.clientNonce).maximumFrameSize.toNat = h.client.limits.maximumFrameSize :=
  frameLimit_toNat (validate_eq_ok.mp g.clientLimits).1.2

lemma Given.serverSize :
    min h.server.limits.maximumFrameSize
      (h.client.hello h.clientNonce).maximumFrameSize.toNat = h.frameSize := by
  rw [g.clientSize, frameSize, min_comm]

lemma Given.negotiatedSize :
    min h.client.limits.maximumFrameSize h.serverHello.maximumFrameSize.toNat = h.frameSize := by
  have hlargest : h.frameSize ≤ absoluteMaxFrameSize :=
    (min_le_left _ _).trans (validate_eq_ok.mp g.clientLimits).1.2
  have hsize : h.serverHello.maximumFrameSize.toNat = h.frameSize := by
    rw [serverHello, hello, g.serverSize, frameLimit_toNat hlargest]
  rw [hsize, frameSize, ← min_assoc, min_self]

lemma Given.frameSize_le :
    h.frameSize ≤ absoluteMaxFrameSize :=
  (min_le_left _ _).trans (validate_eq_ok.mp g.clientLimits).1.2

lemma Given.le_frameSize :
    minNegotiableFrameSize ≤ h.frameSize :=
  le_min (validate_eq_ok.mp g.clientLimits).1.1
    (validate_eq_ok.mp g.serverLimits).1.1

lemma Given.initial_major {initial : ProtocolVersion} :
    (h.client.supportedVersions.maximum = some initial → initial.major ≠ 0) ∧
      (h.server.supportedVersions.maximum = some initial → initial.major ≠ 0) := by
  obtain ⟨clientMax, serverMax, hclient, hserver, -⟩ := g.overlap.highest
  have hmajor := g.overlap.major
  constructor
  · intro hinitial
    rw [hclient, Option.some.injEq] at hinitial
    rwa [← hinitial]
  · intro hinitial
    rw [hserver, Option.some.injEq] at hinitial
    rwa [← hinitial]

lemma Given.versionKnown (n : ℕ) (body : Body) :
    ((h.frame n body).version.any fun version => version.major ≠ 0) = true := by
  simpa [frame] using g.overlap.major

lemma Given.admissible {s : Session} {n : ℕ}
    {body : Body} (hlargest : s.maximumFrameSize ≤ absoluteMaxFrameSize)
    (hsize : (h.frame n body).encodedLen ≤ s.maximumFrameSize) (hvalid : validateBody body = .ok ())
    (hsequence : s.nextReceiveSequence = n) (hn : n ≠ 0) (hroom : n + 1 ≤ u64Max)
    (hcontext : s.counted.validateFrameContext (h.frame n body) = .ok ()) :
    s.Admissible (h.frame n body) := by
  refine (Session.admissible_iff rfl rfl hlargest).mpr ⟨⟨encodedLen_ne_zero hn, hsize⟩,
    ⟨hn, g.versionKnown n body, hvalid⟩, hsequence.symm, ?_, hcontext⟩
  rwa [hsequence]

end Given

variable (h sha256) (initial : ProtocolVersion)

def clientRun : ClientRun where
  nonce := h.clientNonce
  initial
  helloFrame := h.frame 1 (.serverHello h.serverHello)
  serverHello := h.serverHello
  selected := h.version
  binding := h.binding sha256
  material := h.material
  resultFrame := h.frame 2 h.result
  result := authenticationResult h.decision

def serverRun : ServerRun where
  initial
  helloFrame := h.helloFrame
  clientHello := h.client.hello h.clientNonce
  selected := h.version
  enabledCapabilities := h.enabled
  serverNonce := h.serverNonce
  sessionId := h.sessionId
  idleTimeoutMs := UInt32.ofNat h.idleMillis
  authenticateFrame := h.frame 2 (h.authenticate sha256)
  authenticate := authenticateOf h.material (h.binding sha256)
  binding := h.binding sha256
  decision := h.decision

variable {h sha256 initial}

lemma Fits.idle_toNat (f : h.Fits sha256) : (UInt32.ofNat h.idleMillis).toNat = h.idleMillis :=
  UInt32.toNat_ofNat_of_lt' (f.idle.2.trans_lt (by decide))

lemma Fits.enabled_dedup (f : h.Fits sha256) : h.enabled.dedup = h.enabled :=
  (f.distinct.filter _).dedup

lemma Fits.grants (f : h.Fits sha256) {s : Session}
    (hphase : s.phase = .awaitingAuthentication ∨ s.phase = .awaitingAuthenticationResult)
    (henabled : s.enabledCapabilities = h.enabled) :
    s.Grants h.decision.grantedCapabilities := by
  obtain ⟨-, hvalid, ⟨hnodup, -⟩, -⟩ := verifyEnabledCapabilities_eq_ok.mp f.granted
  refine ⟨hphase, hvalid, hnodup, ?_⟩
  rw [henabled]
  exact f.grantedEnabled

lemma frameOf_greeting (hinitial : h.client.supportedVersions.maximum = some initial) :
    ((h.clientRun sha256 initial).opened h.client).frameOf
      ((h.clientRun sha256 initial).greeting h.client) = h.helloFrame := by
  rw [Handshake.helloFrame, hinitial]
  rfl

section Fits

variable (f : h.Fits sha256) (g : h.Given sha256 authenticator verifier)

include f g

lemma Fits.validServerHello :
    validateServerHello h.serverHello = .ok () := by
  obtain ⟨range, hrange⟩ := g.overlap.symm.range
  have hidle := f.idle
  refine (validateServerHello_eq_ok g.serverLimits hrange g.overlap.major h.clientNonce.2 ?_).mpr
    ⟨f.enabled, ⟨?_, ?_⟩, f.lifetime⟩
  · rw [g.clientSize]
    exact (validate_eq_ok.mp g.clientLimits).1.1
  · intro hzero
    have hnat := congrArg UInt32.toNat hzero
    rw [f.idle_toNat] at hnat
    exact absurd hidle.1 (by rw [hnat]; decide)
  · rw [UInt32.le_iff_toNat_le, f.idle_toNat]
    exact hidle.2

lemma Fits.negotiates_client :
    ((h.clientRun sha256 initial).opened h.client).sent.counted.Negotiates
      (h.client.parameters h.serverHello h.version) := by
  obtain ⟨-, hclientStreams, hclientWindow, -, -, -, hclientIdle⟩ :=
    validate_eq_ok.mp g.clientLimits
  obtain ⟨-, hserverStreams, hserverWindow, -⟩ := validate_eq_ok.mp g.serverLimits
  have hsize := g.le_frameSize
  have hidle := f.idle.1
  have hnegotiable : minNegotiableFrameSize = 1024 := rfl
  have hstreams : h.serverHello.maximumConcurrentStreams.toNat =
      h.server.limits.maximumConcurrentStreams := streamLimit_toNat hserverStreams.2
  have hmillis : h.serverHello.idleStreamTimeoutMs.toNat = h.idleMillis := f.idle_toNat
  exact {
    major := g.overlap.major
    sessionId := h.sessionId.2
    frame := by
      have hne : h.frameSize ≠ 0 := by omega
      rwa [← g.negotiatedSize] at hne
    frame_le := min_le_left _ _
    capabilities := by
      rw [ClientConfig.parameters]
      exact f.enabled_dedup.symm ▸ f.enabled
    idle := by
      have hne : min h.client.limits.idleStreamTimeout (h.idleMillis * 1000000) ≠ 0 := by omega
      rwa [← hmillis] at hne
    peer := hserverWindow
    own := hclientWindow
    streams := by
      rw [ClientConfig.parameters, hstreams]
      exact Nat.ne_of_gt (lt_min hserverStreams.1 hclientStreams.1) }

lemma Fits.negotiates_server :
    ((h.serverRun sha256 initial).opened h.server).counted.Negotiates
      (h.server.parameters (h.client.hello h.clientNonce) h.version h.enabled h.sessionId) := by
  obtain ⟨-, -, hclientWindow, -⟩ := validate_eq_ok.mp g.clientLimits
  obtain ⟨-, hserverStreams, hserverWindow, -, -, -, hserverIdle⟩ :=
    validate_eq_ok.mp g.serverLimits
  have hsize := g.le_frameSize
  have hnegotiable : minNegotiableFrameSize = 1024 := rfl
  exact {
    major := g.overlap.major
    sessionId := h.sessionId.2
    frame := by
      have hne : h.frameSize ≠ 0 := by omega
      rwa [← g.serverSize] at hne
    frame_le := min_le_left _ _
    capabilities := by
      rw [parameters]
      exact f.enabled_dedup.symm ▸ f.enabled
    idle := hserverIdle
    peer := hclientWindow
    own := hserverWindow
    streams := Nat.ne_of_gt (lt_min hserverStreams.1 hserverStreams.1) }

lemma Fits.validClientHello :
    validateBody h.clientHello = .ok () := by
  obtain ⟨range, hrange⟩ := g.overlap.range
  exact (validateClientHello_eq_ok g.clientLimits hrange).mpr ⟨f.capabilities, f.mode, f.country⟩

lemma Fits.validAuthenticate :
    validateBody (h.authenticate sha256) = .ok () :=
  (validateAuthenticate_eq_ok g.token g.proof).mpr f.token

lemma Fits.validResult :
    validateBody h.result = .ok () :=
  (validateAuthenticationResult_eq_ok g.accepted).mpr
    ⟨(verifyEnabledCapabilities_eq_ok.mp f.granted).2.1, f.expires⟩

lemma Fits.verifyEnabled :
    verifyEnabledCapabilities h.client.capabilities h.enabled = .ok () := by
  refine verifyEnabledCapabilities_eq_ok.mpr ⟨f.capabilities, f.enabled,
    ⟨f.distinct.filter _, fun name hname => List.mem_of_mem_filter hname⟩, ?_⟩
  intro value hvalue name hname
  have hrequested : requestedName value = name := by rw [requestedName, hname, Option.getD_some]
  refine List.mem_filter.mpr ⟨?_, by simpa using g.required value hvalue name hname⟩
  rw [← hrequested]
  exact List.mem_map_of_mem hvalue

lemma Fits.connects
    (hinitial : h.client.supportedVersions.maximum = some initial) :
    (h.clientRun sha256 initial).Connects h.client sha256 authenticator := by
  have hframe : ((h.clientRun sha256 initial).configured h.client).maximumFrameSize = h.frameSize :=
    g.negotiatedSize
  exact {
    limits := g.clientLimits
    initial := hinitial
    major := g.initial_major.1 hinitial
    greets := ⟨f.validClientHello g, f.clientQueue.1, by
      rw [frameOf_greeting hinitial]
      exact f.helloFrame.trans (min_le_left _ _)⟩
    hello := g.admissible (validate_eq_ok.mp g.clientLimits).1.2
      (f.serverHelloFrame.trans (min_le_left _ _)) (f.validServerHello g) rfl (by decide) (by decide)
      (if_pos ⟨rfl, rfl⟩)
    serverHello := rfl
    echoed := rfl
    selected := rfl
    overlap := ⟨_, rfl, g.overlap⟩
    enabled := f.verifyEnabled g
    negotiates := f.negotiates_client g
    binding := sessionNonceBinding_eq_ok.mpr
      ⟨h.clientNonce.2, h.serverNonce.2, h.sessionId.2, g.overlap.major, rfl⟩
    material := g.material
    authenticates := ⟨f.validAuthenticate g, f.clientQueue.2, by
      rw [hframe]
      exact f.authenticateFrame⟩
    answer := g.admissible (hframe.trans_le g.frameSize_le) (f.resultFrame.trans_eq hframe.symm)
      (f.validResult g) rfl (by decide) (by decide)
      (Session.validateFrameContext_eq_ok (.inr rfl) rfl rfl rfl)
    result := rfl
    accepted := g.accepted
    granted := f.granted
    grants := f.grants (.inr rfl) f.enabled_dedup }

lemma Fits.accepts
    (hinitial : h.server.supportedVersions.maximum = some initial) :
    (h.serverRun sha256 initial).Accepts h.server sha256 verifier := by
  have hframe : ((h.serverRun sha256 initial).configured h.server).maximumFrameSize = h.frameSize :=
    g.serverSize
  have hversion : (h.helloFrame.version.any fun version => version.major ≠ 0) = true := by
    obtain ⟨clientMax, serverMax, hclient, -⟩ := g.overlap.highest
    rw [Handshake.helloFrame, hclient]
    simpa using g.overlap.major
  have hhello : ((h.serverRun sha256 initial).opened h.server).Admissible h.helloFrame :=
    (Session.admissible_iff rfl rfl (validate_eq_ok.mp g.serverLimits).1.2).mpr
      ⟨⟨encodedLen_ne_zero Nat.one_ne_zero, f.helloFrame.trans (min_le_right _ _)⟩,
        ⟨Nat.one_ne_zero, hversion, f.validClientHello g⟩, rfl, (by decide : 1 + 1 ≤ u64Max),
        if_pos ⟨rfl, rfl⟩⟩
  have hidle := f.idle.2
  have hsize : UInt32.size = 4294967296 := rfl
  exact {
    limits := g.serverLimits
    lifetime := f.lifetime
    initial := hinitial
    major := g.initial_major.2 hinitial
    hello := hhello
    clientHello := rfl
    overlap := ⟨_, rfl, g.overlap⟩
    enabled := negotiateCapabilities_eq_ok.mpr ⟨f.capabilities, f.distinct, g.required, rfl⟩
    idle := asMillis_eq_ok.mpr ⟨by rw [idleMillis] at hidle; omega, rfl⟩
    negotiates := f.negotiates_server g
    greets := ⟨f.validServerHello g, f.serverQueue.1, f.serverHelloFrame.trans_eq hframe.symm⟩
    authenticates := g.admissible (hframe.trans_le g.frameSize_le)
      (f.authenticateFrame.trans_eq hframe.symm) (f.validAuthenticate g) rfl (by decide) (by decide)
      (Session.validateFrameContext_eq_ok (.inl rfl) rfl rfl rfl)
    authenticate := rfl
    binding := sessionNonceBinding_eq_ok.mpr
      ⟨h.clientNonce.2, h.serverNonce.2, h.sessionId.2, g.overlap.major, rfl⟩
    bound := rfl
    decision := g.decision
    accepted := g.accepted
    granted := f.granted
    expires := f.expires
    answers := ⟨f.validResult g, f.serverQueue.2, f.resultFrame.trans_eq hframe.symm⟩
    grants := f.grants (.inl rfl) f.enabled_dedup }

end Fits

variable (h sha256 authenticator verifier) in
def start (correlationId : Option (Block 16)) :
    Exchange GatewayFrame ProtocolError Reference Reference where
  left := connectInner sha256 h.client (some h.clientNonce) authenticator
  right := acceptInner sha256 h.server ⟨correlationId, some h.serverNonce, some h.sessionId⟩ verifier
  toLeft := []
  toRight := []

variable {correlationId : Option (Block 16)}

lemma Fits.reaches (f : h.Fits sha256) (g : h.Given sha256 authenticator verifier) :
    ∃ c s, (h.start sha256 authenticator verifier correlationId).Reaches (.success c s) := by
  obtain ⟨clientMax, serverMax, hclient, hserver, -⟩ := g.overlap.highest
  have hconnects := (f.connects g hclient).completes
  have haccepts : Process.Completes (acceptInner sha256 h.server
      ⟨correlationId, some h.serverNonce, some h.sessionId⟩ verifier) _ _ :=
    (f.accepts g hserver).completes rfl rfl
  have hdual : ((h.clientRun sha256 ⟨h.version.major, clientMax⟩).transfers h.client).map
      Transfer.dual = (h.serverRun sha256 ⟨h.version.major, serverMax⟩).transfers h.server := by
    rw [ClientRun.transfers, frameOf_greeting hclient]
    rfl
  rw [← hdual] at haccepts
  exact ⟨_, _, Exchange.reaches_success hconnects haccepts⟩

lemma Given.runs (g : h.Given sha256 authenticator verifier) {cr : ClientRun} {sr : ServerRun}
    (hc : cr.Connects h.client sha256 authenticator) (hs : sr.Accepts h.server sha256 verifier)
    (hm : Matched h.client h.server cr sr) (hnonce : cr.nonce = h.clientNonce)
    (hserver : sr.serverNonce = h.serverNonce) (hid : sr.sessionId = h.sessionId) :
    cr = h.clientRun sha256 cr.initial ∧ sr = h.serverRun sha256 sr.initial := by
  have hclientHello := hm.clientHello hs
  have hserverHello := hm.serverHello hc
  have hselected := hm.selected hc
  have hauthenticate := hm.authenticate hs
  have hresult := hm.result hc
  have hversion : sr.selected = h.version := by
    obtain ⟨range, hrange, hoverlap⟩ := hs.overlap
    rw [hclientHello] at hrange
    cases hrange
    exact hoverlap.unique g.overlap
  have henabled : sr.enabledCapabilities = h.enabled := by
    have hnegotiated := hs.enabled
    rw [hclientHello] at hnegotiated
    exact (negotiateCapabilities_eq_ok.mp hnegotiated).2.2.2
  have hidle : sr.idleTimeoutMs = UInt32.ofNat h.idleMillis := (asMillis_eq_ok.mp hs.idle).2.symm
  have hbinding : sr.binding = h.binding sha256 := by
    have htranscript := (sessionNonceBinding_eq_ok.mp hs.binding).2.2.2.2
    rw [← htranscript, hclientHello, hserver, hid, hversion, binding, ClientConfig.hello, hnonce]
  have hbound : cr.binding = h.binding sha256 := by
    have htranscript := (sessionNonceBinding_eq_ok.mp hc.binding).2.2.2.2
    rw [← htranscript, hserverHello, hselected, hversion, hnonce, binding, ServerRun.serverHello,
      hello, hserver, hid]
  have hmaterial : cr.material = h.material := by
    have hgiven := hc.material
    rw [hbound, g.material] at hgiven
    exact (Except.ok.inj hgiven).symm
  have hdecision : sr.decision = h.decision := by
    have hgiven := hs.decision
    rw [hauthenticate, hbinding, hmaterial] at hgiven
    exact (Except.ok.inj (g.decision.symm.trans hgiven)).symm
  have hhelloFrame : sr.helloFrame = h.helloFrame := by
    rw [hm.greeting, ClientRun.greeting, hnonce, Handshake.helloFrame, hc.initial]
    rfl
  have hauthenticateFrame : sr.authenticateFrame = h.frame 2 (h.authenticate sha256) := by
    rw [hm.authentication, ClientRun.authentication, hmaterial, hbound, ClientRun.configured,
      hserverHello, hselected, hversion, ServerRun.serverHello, hid]
    rfl
  have hsr : sr = h.serverRun sha256 sr.initial := by
    refine ServerRun.ext rfl hhelloFrame ?_ hversion henabled hserver hid hidle hauthenticateFrame ?_
      hbinding hdecision
    · rw [hclientHello, hnonce]
      rfl
    · rw [hauthenticate, hmaterial, hbound]
      rfl
  have hhello : cr.serverHello = h.serverHello := by
    rw [hserverHello, hsr]
    rfl
  refine ⟨ClientRun.ext hnonce rfl ?_ hhello (hselected.trans hversion) hbound hmaterial ?_ ?_, hsr⟩
  · rw [hm.hello, hsr]
    rfl
  · rw [hm.answer, hsr]
    rfl
  · rw [hresult, hdecision]
    rfl

lemma Given.fits (g : h.Given sha256 authenticator verifier) {c s : Reference}
    (hr : (h.start sha256 authenticator verifier correlationId).Reaches (.success c s)) :
    h.Fits sha256 := by
  obtain ⟨cr, sr, ⟨hnonce, hserver, hid⟩, hc, hs, hm, -, -⟩ := matched_of_reaches hr
  obtain ⟨hcr, hsr⟩ := g.runs hc hs hm (Option.some.inj hnonce).symm (Option.some.inj hserver).symm
    (Option.some.inj hid).symm
  rw [hcr] at hc
  rw [hsr] at hs
  obtain ⟨clientRange, hclientRange⟩ := g.overlap.range
  obtain ⟨serverRange, hserverRange⟩ := g.overlap.symm.range
  have hclientSize : minNegotiableFrameSize ≤
      (h.client.hello h.clientNonce).maximumFrameSize.toNat := by
    rw [g.clientSize]
    exact (validate_eq_ok.mp g.clientLimits).1.1
  obtain ⟨hcapabilities, hmode, hcountry⟩ :=
    (validateClientHello_eq_ok g.clientLimits hclientRange).mp hc.greets.valid
  obtain ⟨henabled, ⟨hidle, hidle'⟩, hlifetime⟩ := (validateServerHello_eq_ok g.serverLimits
    hserverRange g.overlap.major h.clientNonce.2 hclientSize).mp hs.greets.valid
  have hmillis : (UInt32.ofNat h.idleMillis).toNat = h.idleMillis :=
    UInt32.toNat_ofNat_of_lt' (asMillis_eq_ok.mp hs.idle).1
  have hserverFrame : ((h.serverRun sha256 sr.initial).configured h.server).maximumFrameSize =
      h.frameSize := g.serverSize
  have hclientFrame : ((h.clientRun sha256 cr.initial).configured h.client).maximumFrameSize =
      h.frameSize := g.negotiatedSize
  exact {
    mode := hmode
    country := hcountry
    capabilities := hcapabilities
    distinct := (negotiateCapabilities_eq_ok.mp hs.enabled).2.1
    enabled := henabled
    lifetime := hlifetime
    idle := by
      rw [ne_eq, ← UInt32.toNat_inj] at hidle
      rw [UInt32.le_iff_toNat_le] at hidle'
      have hpositive : h.idleMillis ≠ 0 := fun hzero => hidle (hmillis.trans hzero)
      exact ⟨Nat.one_le_iff_ne_zero.mpr hpositive, hmillis ▸ hidle'⟩
    token := (validateAuthenticate_eq_ok g.token g.proof).mp hc.authenticates.valid
    granted := hs.granted
    grantedEnabled := fun name hname => List.mem_dedup.mp (hs.grants.enabled name hname)
    expires := hs.expires
    clientQueue := ⟨hc.greets.queue, hc.authenticates.queue⟩
    serverQueue := ⟨hs.greets.queue, hs.answers.queue⟩
    helloFrame := by
      refine le_min ?_ ?_
      · rw [← frameOf_greeting hc.initial]
        exact hc.greets.frame
      · exact ((checkFrameSize_eq_ok (validate_eq_ok.mp g.serverLimits).1.2).mp
          hs.hello.size).2
    serverHelloFrame := hs.greets.frame.trans_eq hserverFrame
    authenticateFrame := hc.authenticates.frame.trans_eq hclientFrame
    resultFrame := hs.answers.frame.trans_eq hserverFrame }

end Handshake

end OnionRoute.GatewayProtocol
