import OnionRoute.Library.Outcome
import OnionRoute.Library.Words

/-! Capability tokens: what they grant, and which of them are well shaped. -/

namespace OnionRoute.AuthTokens

open Library

inductive TokenError
  | inputTooLarge
  | invalidEncoding
  | unsupportedVersion
  | nonCanonicalPolicy
  | invalidTimeWindow
  | notYetValid
  | expired
  | invalidKeyId
  | unknownIssuerKey
  | issuerKeyOutsideValidity
  | invalidSignature
  | revoked
  | revocationDataStale
  | roleNotAllowed
  | regionNotAllowed
  | proofOfPossessionRequired
  | invalidProofOfPossession
  | randomnessUnavailable
  | replayDetected
  | connectionLimitReached
  | replayProtectionUnavailable
  deriving DecidableEq

def tokenVersionV1 : UInt16 := 1
def maxTokenBytes : ℕ := 4 * 1024
def tokenIdLength : ℕ := 32
def signatureLength : ℕ := 64
def tokenBucketSeconds : ℤ := 5 * 60
def tokenTtlSeconds : ℤ := 15 * 60

inductive PlanClass
  | basic
  | plus
  | premium
  deriving DecidableEq

inductive GatewayRole
  | entry
  | relay
  | exit
  deriving DecidableEq

inductive RegionSet
  | europe
  | americas
  | asiaPacific
  | global
  deriving DecidableEq

def RegionSet.allows (regions gatewayRegion : RegionSet) : Bool :=
  regions = .global ∨ regions = gatewayRegion

inductive DeviceSlotClass
  | single
  | personal
  | family
  deriving DecidableEq

inductive BandwidthClass
  | standard
  | fast
  | priority
  deriving DecidableEq

structure ConnectionLimits where
  maxActiveSessions : UInt16
  maxConcurrentStreams : UInt16
  newConnectionsPerMinute : UInt16
  deriving DecidableEq

structure CapabilityPolicy where
  planClass : PlanClass
  allowedGatewayRoles : List GatewayRole
  regionSet : RegionSet
  deviceSlotClass : DeviceSlotClass
  bandwidthClass : BandwidthClass
  connectionLimits : ConnectionLimits
  deriving DecidableEq

namespace CapabilityPolicy

def profile : PlanClass → List GatewayRole × DeviceSlotClass × BandwidthClass × ConnectionLimits
  | .basic => ([.exit], .single, .standard, ⟨2, 64, 120⟩)
  | .plus => ([.entry, .exit], .personal, .fast, ⟨4, 128, 240⟩)
  | .premium => ([.entry, .relay, .exit], .family, .priority, ⟨6, 256, 480⟩)

def canonical (planClass : PlanClass) (regionSet : RegionSet) (gatewayRole : GatewayRole) :
    Except TokenError CapabilityPolicy := do
  let (permittedRoles, deviceSlotClass, bandwidthClass, connectionLimits) := profile planClass
  if gatewayRole ∉ permittedRoles then throw .roleNotAllowed
  pure ⟨planClass, [gatewayRole], regionSet, deviceSlotClass, bandwidthClass, connectionLimits⟩

def validateCanonical (policy : CapabilityPolicy) : Except TokenError Unit :=
  match policy.allowedGatewayRoles.head? with
  | none => .error .nonCanonicalPolicy
  | some role =>
    match canonical policy.planClass policy.regionSet role with
    | .error _ => .error .nonCanonicalPolicy
    | .ok expected => if policy = expected then .ok () else .error .nonCanonicalPolicy

-- The source searches the list by bisection; the lists it is called with are sorted.
def roleAllowed (policy : CapabilityPolicy) (role : GatewayRole) : Bool :=
  role ∈ policy.allowedGatewayRoles

def validateWindow (notBefore expiresAt : Int64) : Except TokenError Unit := do
  let duration := expiresAt.toInt - notBefore.toInt
  -- the subtraction is checked
  if duration < -2 ^ 63 ∨ 2 ^ 63 ≤ duration then throw .invalidTimeWindow
  if notBefore.toInt < 0 ∨ notBefore.toInt.tmod tokenBucketSeconds ≠ 0 ∨
      duration ≠ tokenTtlSeconds then
    throw .invalidTimeWindow

end CapabilityPolicy

structure TokenId where
  bytes : Vector UInt8 32
  deriving DecidableEq

structure CapabilityClaims where
  tokenVersion : UInt16
  tokenId : TokenId
  policy : CapabilityPolicy
  notBefore : Int64
  expiresAt : Int64
  issuerKeyId : String
  proofOfPossessionPublicKey : Option (Vector UInt8 32)
  deriving DecidableEq

def validateKeyId (keyId : String) : Except TokenError Unit :=
  -- the bytes `-`, `_` and `.`
  if keyId.utf8ByteSize = 0 ∨ 64 < keyId.utf8ByteSize ∨
      ¬ keyId.toUTF8.data.toList.all
        fun byte => isAsciiAlphanumeric byte ∨ byte ∈ [0x2d, 0x5f, 0x2e] then
    .error .invalidKeyId
  else .ok ()

def CapabilityClaims.validateShape (claims : CapabilityClaims) : Except TokenError Unit := do
  if claims.tokenVersion ≠ tokenVersionV1 then throw .unsupportedVersion
  claims.policy.validateCanonical
  CapabilityPolicy.validateWindow claims.notBefore claims.expiresAt
  validateKeyId claims.issuerKeyId

end OnionRoute.AuthTokens
