import Mathlib.Data.Vector.Basic
import OnionRoute.GatewayDaemon.Messages

/-! The destination policy: hostname and port before DNS, every address after it. -/

namespace OnionRoute.GatewayDaemon

open Library

def ascii (text : String) : Bytes := text.toList.map fun c => c.val.toUInt8

def dot : UInt8 := 46

def hyphen : UInt8 := 45

inductive IpAddr
  | v4 (octets : List.Vector UInt8 4)
  | v6 (octets : List.Vector UInt8 16)
  deriving DecidableEq

namespace IpAddr

def octets : IpAddr → Bytes
  | v4 octets => octets.toList
  | v6 octets => octets.toList

def isV4 : IpAddr → Bool
  | v4 _ => true
  | v6 _ => false

end IpAddr

/-- A network of the `ipnet` crate is known by the addresses that it says it contains. -/
structure IpNet where
  contains : IpAddr → Bool

inductive Destination
  | hostname (name : Bytes)
  | ip (address : IpAddr)
  deriving DecidableEq

structure AclConfig where
  blockedPorts : List UInt16 := [22, 23, 25, 111, 135, 137, 138, 139, 445, 2375, 2376, 3306, 3389,
    5432, 5900, 6379, 6443, 9051, 9151, 9200, 11211, 27017]
  managementNetworks : List IpNet := []
  emergencyDenyNetworks : List IpNet := []
  emergencyDenyHostSuffixes : List Bytes := []
  cloudMetadataIps : List IpAddr := [.v4 ⟨[169, 254, 169, 254], rfl⟩, .v4 ⟨[100, 100, 100, 200], rfl⟩,
    .v4 ⟨[168, 63, 129, 16], rfl⟩]

structure EmergencyRules where
  networks : List IpNet
  hostnameSuffixes : List Bytes

structure AclEngine where
  config : AclConfig
  emergency : EmergencyRules

def isNonPublicV4 (octets : List.Vector UInt8 4) : Bool :=
  let a := octets.get 0
  let b := octets.get 1
  let c := octets.get 2
  a == 0 || a == 10 || a == 127 || (a == 100 && 64 ≤ b && b ≤ 127) || (a == 169 && b == 254) ||
    (a == 172 && 16 ≤ b && b ≤ 31) || (a == 192 && b == 0) || (a == 192 && b == 168) ||
    (a == 192 && b == 88 && c == 99) || (a == 198 && (b == 18 || b == 19)) ||
    (a == 198 && b == 51 && c == 100) || (a == 203 && b == 0 && c == 113) || 224 ≤ a ||
    octets.toList == [0, 0, 0, 0] || octets.toList == [255, 255, 255, 255]

def toIpv4 (octets : List.Vector UInt8 16) : Option (List.Vector UInt8 4) :=
  if octets.toList.take 10 = List.replicate 10 0 ∧
      (octets.get 10 = 0 ∧ octets.get 11 = 0 ∨ octets.get 10 = 255 ∧ octets.get 11 = 255) then
    some ⟨[octets.get 12, octets.get 13, octets.get 14, octets.get 15], rfl⟩
  else
    none

def isNonPublicV6 (octets : List.Vector UInt8 16) : Bool :=
  let first := fromBe16 (octets.get 0) (octets.get 1)
  let second := fromBe16 (octets.get 2) (octets.get 3)
  octets.toList == List.replicate 16 0 || octets.toList == List.replicate 15 0 ++ [1] ||
    octets.get 0 == 255 || first &&& 0xfe00 == 0xfc00 || first &&& 0xffc0 == 0xfe80 ||
    (first == 0x2001 && second == 0x0db8) || first &&& 0xe000 != 0x2000 ||
    (first == 0x0064 && second == 0xff9b) || first == 0x2002 || (first == 0x2001 && second == 0) ||
    (toIpv4 octets).any isNonPublicV4

def isNonPublic : IpAddr → Bool
  | .v4 octets => isNonPublicV4 octets
  | .v6 octets => isNonPublicV6 octets

def forbiddenExact : List Bytes :=
  ["localhost", "metadata", "metadata.google.internal", "instance-data", "kubernetes.default",
    "local", "internal", "home.arpa", "onion"].map ascii

def forbiddenSuffixes : List Bytes :=
  [".localhost", ".local", ".internal", ".home.arpa", ".onion"].map ascii

def forbiddenHostname (hostname : Bytes) : Bool :=
  forbiddenExact.contains hostname || forbiddenSuffixes.any fun suffix => suffix.isSuffixOf hostname

def stripDot (hostname : Bytes) : Bytes :=
  if hostname.getLast? = some dot then hostname.dropLast else hostname

def labelAllowed (label : Bytes) : Bool :=
  label ≠ [] && label.length ≤ 63 && label.head? ≠ some hyphen && label.getLast? ≠ some hyphen &&
    label.all fun b => isAsciiAlphanumeric b || b == hyphen

def checkLabel (label : Bytes) : GatewayResult Unit :=
  if labelAllowed label then .ok () else .error .policyDenied

section Hostname

-- Whether the standard library reads a text as an IP address.
variable (parsesAsIp : Bytes → Bool)

def canonicalHostname (hostname : Bytes) : GatewayResult Bytes := do
  let hostname := stripDot hostname
  if hostname = [] ∨ 253 < hostname.length ∨ hostname.any (128 ≤ ·) then
    throw .policyDenied
  if parsesAsIp hostname then
    throw .policyDenied
  for label in hostname.splitOn dot do
    checkLabel label
  return hostname.map toAsciiLowercase

namespace AclEngine

def new (config : AclConfig) : AclEngine where
  config := config
  emergency :=
    { networks := config.emergencyDenyNetworks
      hostnameSuffixes := config.emergencyDenyHostSuffixes.map (List.map toAsciiLowercase) }

def standard : AclEngine := .new {}

def replaceEmergencyDenies (networks : List IpNet) (hostnameSuffixes : List Bytes)
    (acl : AclEngine) : GatewayResult AclEngine :=
  if 256 < networks.length ∨ 256 < hostnameSuffixes.length ∨
      hostnameSuffixes.any (fun value => value = [] || 253 < value.length || value.any (128 ≤ ·)) then
    .error .policyDenied
  else
    .ok { acl with emergency := ⟨networks, hostnameSuffixes.map (List.map toAsciiLowercase)⟩ }

def checkPort (acl : AclEngine) (port : UInt16) : GatewayResult Unit :=
  if port = 0 ∨ port = 25 ∨ port = 9051 ∨ port = 9151 ∨ (6881 ≤ port ∧ port ≤ 6889) ∨
      acl.config.blockedPorts.contains port then
    .error .policyDenied
  else
    .ok ()

def checkIp (acl : AclEngine) (address : IpAddr) : GatewayResult Unit :=
  if isNonPublic address ∨ acl.config.cloudMetadataIps.contains address ∨
      acl.config.managementNetworks.any (·.contains address) then
    .error .policyDenied
  else if acl.emergency.networks.any (·.contains address) then
    .error .policyDenied
  else
    .ok ()

def emergencyHostnameDenied (acl : AclEngine) (hostname : Bytes) : Bool :=
  acl.emergency.hostnameSuffixes.any fun suffix =>
    hostname = suffix || (dot :: suffix).isSuffixOf hostname

def checkDestination (acl : AclEngine) (destination : Destination) (port : UInt16) :
    GatewayResult Unit := do
  acl.checkPort port
  match destination with
  | .hostname hostname =>
    let canonical ← canonicalHostname parsesAsIp hostname
    if forbiddenHostname canonical ∨ acl.emergencyHostnameDenied canonical then
      throw .policyDenied
  | .ip address => acl.checkIp address

end AclEngine

end Hostname

def decodeDestination (destination : Option WireDestination) : GatewayResult Destination :=
  match destination.bind WireDestination.value with
  | none => .error .protocolViolation
  | some (.hostname name) => .ok (.hostname name)
  | some (.ipAddress bytes) =>
    if h : bytes.length = 4 then .ok (.ip (.v4 ⟨bytes, h⟩))
    else if h : bytes.length = 16 then .ok (.ip (.v6 ⟨bytes, h⟩))
    else .error .protocolViolation

end OnionRoute.GatewayDaemon
