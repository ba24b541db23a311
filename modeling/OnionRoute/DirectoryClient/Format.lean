import OnionRoute.CommonTypes.Gateway

/-! The documents of the gateway directory. Unix times are integers. -/

namespace OnionRoute.DirectoryClient

open CommonTypes (GatewayRole)

structure SigningKeyCertificate where
  keyId : String
  algorithm : String
  publicKey : String
  validFrom : ℤ
  validUntil : ℤ
  deriving DecidableEq

structure RootTrustBundle where
  formatVersion : UInt16
  bundleVersion : UInt64
  rootKeyId : String
  issuedAt : ℤ
  expiresAt : ℤ
  signingKeys : List SigningKeyCertificate
  revokedSigningKeyIds : List String
  deriving DecidableEq

structure SignedTrustBundle where
  bundle : RootTrustBundle
  signature : String
  deriving DecidableEq

structure SignedDirectory where
  envelopeVersion : UInt16
  signingKeyId : String
  trustBundle : SignedTrustBundle
  payload : String
  signature : String
  deriving DecidableEq

inductive AnonymityProfile
  | standard
  | enhanced
  | maximum
  | directTor
  deriving DecidableEq

inductive LoadBucket
  | unknown
  | low
  | medium
  | high
  | saturated
  deriving DecidableEq

inductive CapacityBucket
  | small
  | medium
  | large
  deriving DecidableEq

inductive HealthState
  | healthy
  | degraded
  | unhealthy
  | unknown
  deriving DecidableEq

inductive MaintenanceState
  | active
  | draining
  | maintenance
  deriving DecidableEq

inductive AbuseState
  | active
  | restricted
  | blocked
  deriving DecidableEq

structure GatewayRecord where
  gatewayId : String
  countryCode : String
  cityLabel : String
  region : String
  role : GatewayRole
  providerGroup : String
  autonomousSystem : UInt32
  onionAddress : String
  capabilities : List String
  supportedProtocolVersions : List String
  minimumClientVersion : String
  currentLoadBucket : LoadBucket
  capacityBucket : CapacityBucket
  health : HealthState
  maintenanceState : MaintenanceState
  abuseState : AbuseState
  publicSigningKey : String
  validFrom : ℤ
  validUntil : ℤ
  deriving DecidableEq

structure CountryConfig where
  countryCode : String
  displayNameKey : String
  enabled : Bool
  supportedProfiles : List AnonymityProfile
  deriving DecidableEq

structure GatewayRevocation where
  gatewayId : String
  reasonCode : String
  revokedAt : ℤ
  expiresAt : Option ℤ
  deriving DecidableEq

structure ClientVersionRule where
  platform : String
  channel : String
  minimumSupportedVersion : String
  recommendedVersion : String
  latestVersion : String
  deriving DecidableEq

structure FeatureFlag where
  key : String
  enabled : Bool
  platform : Option String
  minimumClientVersion : Option String
  maximumClientVersion : Option String
  deriving DecidableEq

structure DirectoryDocument where
  formatVersion : String
  version : UInt64
  issuedAt : ℤ
  expiresAt : ℤ
  gateways : List GatewayRecord
  countries : List CountryConfig
  revocations : List GatewayRevocation
  clientVersionRules : List ClientVersionRule
  featureFlags : List FeatureFlag
  deriving DecidableEq

end OnionRoute.DirectoryClient
