import OnionRoute.CommonTypes.Error
import OnionRoute.PacketEngine.Flow

/-! The decision of the routing policy about a TCP flow. -/

namespace OnionRoute.PolicyEngine

open CommonTypes
open PacketEngine (ApplicationTag Ipv4Addr PolicyDecision TcpFlowRequest TcpHost)

structure MvpPolicyConfig where
  bypassApplications : Finset ApplicationTag := ∅

def isPrivate (x : Ipv4Addr) : Bool :=
  x.a == 10 || (x.a == 172 && 16 ≤ x.b && x.b ≤ 31) || (x.a == 192 && x.b == 168)

def isLoopback (x : Ipv4Addr) : Bool := x.a == 127

def isLinkLocal (x : Ipv4Addr) : Bool := x.a == 169 && x.b == 254

def isBroadcast (x : Ipv4Addr) : Bool := x == ⟨255, 255, 255, 255⟩

def isUnspecified (x : Ipv4Addr) : Bool := x == ⟨0, 0, 0, 0⟩

def isMulticast (x : Ipv4Addr) : Bool := 224 ≤ x.a && x.a ≤ 239

def forbiddenIpv4 (x : Ipv4Addr) : Bool :=
  isPrivate x || isLoopback x || isLinkLocal x || isBroadcast x || isUnspecified x ||
    isMulticast x || x.a == 0 || 240 ≤ x.a || (x.a == 100 && 64 ≤ x.b && x.b ≤ 127) ||
    (x.a == 192 && x.b == 0 && x.c == 0) || (x.a == 198 && (x.b == 18 || x.b == 19)) ||
    x == ⟨100, 100, 100, 200⟩ || (x.a == 169 && x.b == 254)

def endsWith (name suffix : String) : Bool :=
  suffix.toList.isSuffixOf name.toLower.toList

def forbiddenDestination : TcpHost → Bool
  | .hostname name =>
    name == "" || 253 < name.utf8ByteSize || name.toLower == "localhost" ||
      endsWith name ".localhost" || endsWith name ".local"
  | .ip (.v4 address) => forbiddenIpv4 address
  | .ip (.v6 _) => true

def block (ruleId : String) : PolicyDecision := ⟨.block, ruleId⟩

def evaluateTcp (config : MvpPolicyConfig) (request : TcpFlowRequest) :
    OnionResult PolicyDecision :=
  if request.port = 0 ∨ request.port = 25 then .ok (block "mvp.block.smtp-or-invalid-port.v1")
  else if 6881 ≤ request.port ∧ request.port ≤ 6889 then
    .ok (block "mvp.block.bittorrent-default-ports.v1")
  else if forbiddenDestination request.host then
    .ok (block "mvp.block.local-or-private-destination.v1")
  else if ∃ application ∈ request.application, application ∈ config.bypassApplications then
    .ok ⟨.bypass, "split.platform-exclusion-required.v1"⟩
  else .ok ⟨.tunnel, "mvp.default.protected-tunnel.v1"⟩

def Synthetic (x : Ipv4Addr) : Prop := x.a = 198 ∧ (x.b = 18 ∨ x.b = 19)

lemma forbidden_synthetic {x : Ipv4Addr} (h : Synthetic x) : forbiddenIpv4 x = true := by
  obtain ⟨ha, hb⟩ := h
  rcases hb with hb | hb <;> simp [forbiddenIpv4, ha, hb]

lemma evaluateTcp_forbidden {config : MvpPolicyConfig} {request : TcpFlowRequest}
    {decision : PolicyDecision} (hforbidden : forbiddenDestination request.host = true)
    (h : evaluateTcp config request = .ok decision) : decision.action = .block := by
  rw [evaluateTcp, if_pos hforbidden] at h
  split_ifs at h
  all_goals
    obtain rfl := Except.ok.inj h
    rfl

end OnionRoute.PolicyEngine
