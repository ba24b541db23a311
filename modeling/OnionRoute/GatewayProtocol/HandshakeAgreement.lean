import OnionRoute.GatewayProtocol.HandshakeFits
import OnionRoute.GatewayProtocol.Pair

/-! When the handshake succeeds, and that its two sessions then agree. -/

namespace OnionRoute.GatewayProtocol

open Library

structure Agree (client server : Session) : Prop where
  version : client.selectedVersion.isSome ∧ client.selectedVersion = server.selectedVersion ∧
    client.outboundVersion = server.outboundVersion
  sessionId : client.sessionId = server.sessionId
  frame : client.maximumFrameSize = server.maximumFrameSize
  capabilities : client.enabledCapabilities.toFinset = server.enabledCapabilities.toFinset
  flow : ∃ c s, client.flow = some c ∧ server.flow = some s ∧
    c.connectionSendWindow = s.connectionReceiveWindow ∧
    s.connectionSendWindow = c.connectionReceiveWindow ∧
    c.maximumConcurrentStreams ≤ s.maximumConcurrentStreams

def Pair.idle (client server : Session) : Pair where
  session
    | .client => client
    | .server => server
  link _ := []

section

variable {sha256 : Bytes → Block 32} {client : ClientConfig} {server : ServerConfig}
  {authenticator : Block 32 → Result AuthenticationMaterial}
  {verifier : Bytes → Bytes → Block 32 → Result AuthenticationDecision}
  {clientEntropy : Option (Block 32)} {serverEntropy : ServerEntropy} {c s : Reference}
  {l r : List GatewayFrame}
  (h : Exchange.Reaches ⟨connectInner sha256 client clientEntropy authenticator,
    acceptInner sha256 server serverEntropy verifier, [], []⟩
    ⟨.ends (.ok c), .ends (.ok s), l, r⟩)
include h

theorem sessions_agree :
    Agree c.session s.session ∧
      c.grantedCapabilities.toFinset = s.grantedCapabilities.toFinset := by
  obtain ⟨cr, sr, -, hc, hs, hm, rfl, rfl⟩ := matched_of_reaches h
  have hclientHello := hm.clientHello hs
  have hserverHello := hm.serverHello hc
  have hselected := hm.selected hc
  have hgranted : cr.result.grantedCapabilities = sr.decision.grantedCapabilities := by
    rw [hm.result hc]
    rfl
  obtain ⟨hclientSize, -⟩ := ProtocolLimits.validate_eq_ok.mp hc.limits
  obtain ⟨hserverSize, hstreams, -⟩ := ProtocolLimits.validate_eq_ok.mp hs.limits
  have hsize : sr.clientHello.maximumFrameSize.toNat = client.limits.maximumFrameSize := by
    rw [hclientHello]
    exact frameLimit_toNat hclientSize.2
  have hframe : (sr.serverHello server).maximumFrameSize.toNat =
      min server.limits.maximumFrameSize client.limits.maximumFrameSize := by
    rw [ServerRun.serverHello, ServerConfig.hello, hsize]
    exact frameLimit_toNat ((min_le_left _ _).trans hserverSize.2)
  have hcount : (sr.serverHello server).maximumConcurrentStreams.toNat =
      server.limits.maximumConcurrentStreams := by
    have hmax : maxConcurrentStreams = 4096 := rfl
    rw [ServerRun.serverHello, ServerConfig.hello, UInt32.toNat_ofNat']
    omega
  refine ⟨⟨⟨rfl, congrArg some hselected, hselected⟩, ?_, ?_, congrArg List.toFinset hgranted,
    _, _, rfl, rfl, ?_, ?_, ?_⟩, congrArg List.toFinset hgranted⟩
  · change cr.serverHello.ephemeralSessionId = sr.sessionId
    rw [hserverHello]
    rfl
  · change min client.limits.maximumFrameSize cr.serverHello.maximumFrameSize.toNat =
      min server.limits.maximumFrameSize sr.clientHello.maximumFrameSize.toNat
    rw [hserverHello, hframe, hsize]
    omega
  · exact hm.serverWindow hc
  · exact hm.clientWindow hs
  · change min cr.serverHello.maximumConcurrentStreams.toNat client.limits.maximumConcurrentStreams ≤
      min server.limits.maximumConcurrentStreams server.limits.maximumConcurrentStreams
    rw [hserverHello, hcount]
    omega

/-- A handshake that both ends complete leaves them as the runs of a pair of sessions begin. -/
lemma negotiated_of_reaches :
    (Pair.idle c.session s.session).Negotiated := by
  obtain ⟨cr, sr, -, hc, hs, hm, rfl, rfl⟩ := matched_of_reaches h
  refine ⟨?_, ?_, ?_, ?_, ?_, by rintro _ _ ⟨⟩⟩
  · rintro (_ | _) <;> rfl
  · rintro (_ | _)
    · exact ⟨_, _, _, _, hc.negotiates.new_flow, rfl⟩
    · exact ⟨_, _, _, _, hs.negotiates.new_flow, rfl⟩
  · rintro (_ | _) _ _ ⟨⟩ ⟨⟩
    · exact hm.serverWindow hc
    · exact hm.clientWindow hs
  · rintro (_ | _) _ ⟨⟩
  · rintro (_ | _) <;> rfl

end

namespace Sample

def range : ProtocolVersionRange where
  minimum := some ⟨1, 0⟩
  maximum := some ⟨1, 0⟩

def digest (_ : Bytes) : Block 32 :=
  ⟨List.replicate 32 0, rfl⟩

def handshake (limits : ProtocolLimits) : Handshake where
  client := {
    supportedVersions := range
    capabilities := ["required:tcp-connect-v1", "required:flow-control-v1"]
    anonymityMode := .standard
    desiredCountry := ""
    limits := .default }
  server := {
    supportedVersions := range
    supportedCapabilities := {tcpConnectV1, flowControlV1}
    sessionTtlSeconds := 3600
    limits }
  clientNonce := ⟨List.replicate 32 1, rfl⟩
  serverNonce := ⟨List.replicate 32 2, rfl⟩
  sessionId := ⟨List.replicate 16 3, rfl⟩
  version := ⟨1, 0⟩
  material := ⟨[5], []⟩
  decision := ⟨true, 1, [tcpConnectV1, flowControlV1]⟩

def authenticator (_ : Block 32) : Result AuthenticationMaterial :=
  .ok ⟨[5], []⟩

def verifier (_ _ : Bytes) (_ : Block 32) : Result AuthenticationDecision :=
  .ok ⟨true, 1, [tcpConnectV1, flowControlV1]⟩

lemma range_overlap : Overlap range range ⟨1, 0⟩ :=
  ⟨⟨0, rfl, by decide⟩, ⟨0, rfl, by decide⟩, by decide, 0, 0, rfl, rfl, rfl⟩

lemma handshake_given {limits : ProtocolLimits} (h : limits.validate = .ok ()) :
    (handshake limits).Given digest authenticator verifier where
  clientLimits := rfl
  serverLimits := h
  overlap := range_overlap
  required := by
    intro value hvalue name hname
    have hall : ∀ value ∈ ["required:tcp-connect-v1", "required:flow-control-v1"],
        ((stripRequired value).all fun name =>
          decide (name ∈ ({tcpConnectV1, flowControlV1} : Finset String))) = true := by
      decide +kernel
    have hsupported := hall value hvalue
    rw [hname] at hsupported
    exact of_decide_eq_true hsupported
  material := rfl
  token := (by decide : 1 ≤ maxCapabilityToken)
  proof := Nat.zero_le _
  decision := rfl
  accepted := rfl

lemma handshake_fits : (handshake .default).Fits digest := by
  constructor <;> decide +kernel

end Sample

open Sample in
theorem sessions_agree_default :
    ∃ c s, ((handshake .default).start digest authenticator verifier
        none).Reaches (.success c s) ∧ Agree c.session s.session ∧
      c.grantedCapabilities.toFinset = s.grantedCapabilities.toFinset := by
  obtain ⟨c, s, h⟩ := handshake_fits.reaches (handshake_given rfl)
  exact ⟨c, s, h, sessions_agree h⟩

section

variable {h : Handshake} {sha256 : Bytes → Block 32}
  {authenticator : Block 32 → Result AuthenticationMaterial}
  {verifier : Bytes → Bytes → Block 32 → Result AuthenticationDecision}

/-- However the reads and writes of the two ends are ordered, both can still end with a session. -/
theorem handshake_succeeds_iff (g : h.Given sha256 authenticator verifier)
    (correlationId : Option (Block 16)) :
    (∀ x, (h.start sha256 authenticator verifier correlationId).Reaches x →
      ∃ c s, x.Reaches (.success c s)) ↔ h.Fits sha256 := by
  constructor
  · intro hall
    obtain ⟨c, s, hreaches⟩ := hall _ .refl
    exact g.fits hreaches
  · intro hfits x hx
    obtain ⟨c, s, hreaches⟩ := hfits.reaches g
    exact ⟨c, s, hreaches.of_success hx⟩

end

open Sample in
theorem handshake_succeeds_default :
    (handshake .default).Given digest authenticator verifier ∧
      ∀ x, ((handshake .default).start digest authenticator verifier
        none).Reaches x → ∃ c s, x.Reaches (.success c s) :=
  ⟨handshake_given rfl,
    (handshake_succeeds_iff (handshake_given rfl) none).mpr handshake_fits⟩

def Sample.patient : ProtocolLimits :=
  { ProtocolLimits.default with idleStreamTimeout := 7200 * nanosPerSecond }

open Sample in
-- The server refuses its own hello, so no order of steps leads to a session.
theorem handshake_fails_patient :
    (handshake patient).Given digest authenticator verifier ∧
      ¬ ∃ c s, ((handshake patient).start digest authenticator
        verifier none).Reaches (.success c s) := by
  refine ⟨handshake_given rfl, ?_⟩
  rintro ⟨c, s, hreaches⟩
  have hidle := ((handshake_given rfl).fits hreaches).idle.2
  exact absurd hidle (by decide +kernel)

end OnionRoute.GatewayProtocol
