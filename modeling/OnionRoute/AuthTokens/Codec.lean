import OnionRoute.AuthTokens.Claims
import OnionRoute.GatewayProtocol.WireFormat

/-! The wire format of capability tokens. -/

namespace OnionRoute.AuthTokens

open Library
open GatewayProtocol

structure SignedTokenEnvelopeV1 where
  tokenVersion : UInt32
  claims : Bytes
  signature : Bytes
  deriving DecidableEq

structure ConnectionLimitsV1 where
  maxActiveSessions : UInt32
  maxConcurrentStreams : UInt32
  newConnectionsPerMinute : UInt32
  deriving DecidableEq

structure CapabilityClaimsV1 where
  tokenVersion : UInt32
  tokenId : Bytes
  planClass : Int32
  allowedGatewayRoles : List Int32
  regionSet : Int32
  deviceSlotClass : Int32
  bandwidthClass : Int32
  connectionLimits : Option ConnectionLimitsV1
  notBefore : Int64
  expiresAt : Int64
  issuerKeyId : String
  proofOfPossessionPublicKey : Option Bytes
  deriving DecidableEq

def packedEnumField (tag : ℕ) (values : List Int32) : Bytes :=
  if values = [] then []
  else delimited tag (values.flatMap fun value => varint value.toInt64.toUInt64.toNat)

def SignedTokenEnvelopeV1.encode (m : SignedTokenEnvelopeV1) : Bytes :=
  uintField 1 m.tokenVersion.toNat ++ bytesField 2 m.claims ++ bytesField 3 m.signature

def ConnectionLimitsV1.encode (m : ConnectionLimitsV1) : Bytes :=
  uintField 1 m.maxActiveSessions.toNat ++ uintField 2 m.maxConcurrentStreams.toNat ++
    uintField 3 m.newConnectionsPerMinute.toNat

def CapabilityClaimsV1.encode (m : CapabilityClaimsV1) : Bytes :=
  uintField 1 m.tokenVersion.toNat ++ bytesField 2 m.tokenId ++ int32Field 3 m.planClass ++
    packedEnumField 4 m.allowedGatewayRoles ++ int32Field 5 m.regionSet ++
    int32Field 6 m.deviceSlotClass ++ int32Field 7 m.bandwidthClass ++
    optionField 8 ConnectionLimitsV1.encode m.connectionLimits ++ int64Field 9 m.notBefore ++
    int64Field 10 m.expiresAt ++ stringField 11 m.issuerKeyId ++
    optionField 12 id m.proofOfPossessionPublicKey

structure Prost where
  decodeEnvelope : Bytes → Option SignedTokenEnvelopeV1
  decodeClaims : Bytes → Option CapabilityClaimsV1

/-- Zero, which the messages keep for `Unspecified`, is refused like a number that no member has. -/
def enumFromWire {α : Type} (members : List (Int32 × α)) (value : Int32) : Except TokenError α :=
  match members.lookup value with
  | some member => .ok member
  | none => .error .invalidEncoding

def planToWire : PlanClass → Int32
  | .basic => 1
  | .plus => 2
  | .premium => 3

def planFromWire : Int32 → Except TokenError PlanClass :=
  enumFromWire [(1, .basic), (2, .plus), (3, .premium)]

def roleToWire : GatewayRole → Int32
  | .entry => 1
  | .relay => 2
  | .exit => 3

def roleFromWire : Int32 → Except TokenError GatewayRole :=
  enumFromWire [(1, .entry), (2, .relay), (3, .exit)]

def regionToWire : RegionSet → Int32
  | .europe => 1
  | .americas => 2
  | .asiaPacific => 3
  | .global => 4

def regionFromWire : Int32 → Except TokenError RegionSet :=
  enumFromWire [(1, .europe), (2, .americas), (3, .asiaPacific), (4, .global)]

def deviceToWire : DeviceSlotClass → Int32
  | .single => 1
  | .personal => 2
  | .family => 3

def deviceFromWire : Int32 → Except TokenError DeviceSlotClass :=
  enumFromWire [(1, .single), (2, .personal), (3, .family)]

def bandwidthToWire : BandwidthClass → Int32
  | .standard => 1
  | .fast => 2
  | .priority => 3

def bandwidthFromWire : Int32 → Except TokenError BandwidthClass :=
  enumFromWire [(1, .standard), (2, .fast), (3, .priority)]

def claimsToWire (claims : CapabilityClaims) : CapabilityClaimsV1 where
  tokenVersion := claims.tokenVersion.toUInt32
  tokenId := claims.tokenId.bytes.toList
  planClass := planToWire claims.policy.planClass
  allowedGatewayRoles := claims.policy.allowedGatewayRoles.map roleToWire
  regionSet := regionToWire claims.policy.regionSet
  deviceSlotClass := deviceToWire claims.policy.deviceSlotClass
  bandwidthClass := bandwidthToWire claims.policy.bandwidthClass
  connectionLimits := some
    { maxActiveSessions := claims.policy.connectionLimits.maxActiveSessions.toUInt32
      maxConcurrentStreams := claims.policy.connectionLimits.maxConcurrentStreams.toUInt32
      newConnectionsPerMinute := claims.policy.connectionLimits.newConnectionsPerMinute.toUInt32 }
  notBefore := claims.notBefore
  expiresAt := claims.expiresAt
  issuerKeyId := claims.issuerKeyId
  proofOfPossessionPublicKey := claims.proofOfPossessionPublicKey.map Vector.toList

def narrow (e : TokenError) (value : UInt32) : Except TokenError UInt16 :=
  if value.toNat < 2 ^ 16 then .ok value.toUInt16 else .error e

def sized (n : ℕ) (bytes : Bytes) : Except TokenError (Vector UInt8 n) :=
  if h : bytes.length = n then .ok ⟨bytes.toArray, by simpa using h⟩ else .error .invalidEncoding

def present {α : Type} : Option α → Except TokenError α
  | some a => .ok a
  | none => .error .invalidEncoding

def popKeyFromWire : Option Bytes → Except TokenError (Option (Vector UInt8 32))
  | none => .ok none
  | some key => do pure (some (← sized 32 key))

def claimsFromWire (claims : CapabilityClaimsV1) : Except TokenError CapabilityClaims := do
  let tokenVersion ← narrow .unsupportedVersion claims.tokenVersion
  let tokenId ← sized tokenIdLength claims.tokenId
  let roles ← claims.allowedGatewayRoles.mapM roleFromWire
  let limits ← present claims.connectionLimits
  let maxActiveSessions ← narrow .invalidEncoding limits.maxActiveSessions
  let maxConcurrentStreams ← narrow .invalidEncoding limits.maxConcurrentStreams
  let newConnectionsPerMinute ← narrow .invalidEncoding limits.newConnectionsPerMinute
  let popKey ← popKeyFromWire claims.proofOfPossessionPublicKey
  let planClass ← planFromWire claims.planClass
  let regionSet ← regionFromWire claims.regionSet
  let deviceSlotClass ← deviceFromWire claims.deviceSlotClass
  let bandwidthClass ← bandwidthFromWire claims.bandwidthClass
  pure
    { tokenVersion
      tokenId := ⟨tokenId⟩
      policy :=
        { planClass
          allowedGatewayRoles := roles
          regionSet
          deviceSlotClass
          bandwidthClass
          connectionLimits :=
            { maxActiveSessions, maxConcurrentStreams, newConnectionsPerMinute } }
      notBefore := claims.notBefore
      expiresAt := claims.expiresAt
      issuerKeyId := claims.issuerKeyId
      proofOfPossessionPublicKey := popKey }

structure DecodedToken where
  claims : CapabilityClaims
  claimsBytes : Bytes
  signature : Vector UInt8 64
  deriving DecidableEq

def envelopeOf (claims : CapabilityClaims) (signature : Vector UInt8 64) :
    SignedTokenEnvelopeV1 where
  tokenVersion := tokenVersionV1.toUInt32
  claims := (claimsToWire claims).encode
  signature := signature.toList

def encodeToken (claims : CapabilityClaims) (signature : Vector UInt8 64) :
    Except TokenError Bytes := do
  claims.validateShape
  let encoded := (envelopeOf claims signature).encode
  if encoded.length > maxTokenBytes then throw .inputTooLarge
  pure encoded

variable (prost : Prost)

def decodeToken (encoded : Bytes) : Except TokenError DecodedToken := do
  if encoded.length > maxTokenBytes then throw .inputTooLarge
  let envelope ← present (prost.decodeEnvelope encoded)
  if envelope.tokenVersion ≠ tokenVersionV1.toUInt32 then throw .unsupportedVersion
  -- duplicate and unknown fields are refused
  if envelope.encode ≠ encoded then throw .invalidEncoding
  if envelope.claims.length > maxTokenBytes then throw .inputTooLarge
  let wireClaims ← present (prost.decodeClaims envelope.claims)
  if wireClaims.encode ≠ envelope.claims then throw .invalidEncoding
  let claims ← claimsFromWire wireClaims
  claims.validateShape
  let signature ← sized signatureLength envelope.signature
  pure { claims, claimsBytes := envelope.claims, signature }

end OnionRoute.AuthTokens
