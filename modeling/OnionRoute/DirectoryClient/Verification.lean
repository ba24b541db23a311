import OnionRoute.DirectoryClient.Format
import OnionRoute.Library.Outcome
import OnionRoute.Library.Table

/-! Offline verification of a directory. -/

namespace OnionRoute.DirectoryClient

open Library

structure Externals where
  Key : Type
  Version : Type
  decodeEnvelope : Bytes → Option SignedDirectory
  decodeDocument : Bytes → Option DirectoryDocument
  canonicalDocument : DirectoryDocument → Option Bytes
  canonicalBundle : RootTrustBundle → Option Bytes
  base64 : String → Option Bytes
  base32 : String → Option Bytes
  sha256 : Bytes → Vector UInt8 32
  sha3 : Bytes → Vector UInt8 32
  verifyingKey : Vector UInt8 32 → Option Key
  verifies : Key → Bytes → Vector UInt8 64 → Bool
  parseVersion : String → Option Version
  atLeast : Version → Version → Bool

inductive VerificationError
  | envelopeTooLarge
  | invalidEncoding
  | unsupportedFormat
  | untrustedRoot
  | invalidSignature
  | invalidValidityWindow
  | rollback
  | unauthorizedSigningKey
  | invalidDocument
  deriving DecidableEq

structure PersistedDirectoryState where
  version : UInt64
  payloadSha256 : Vector UInt8 32
  deriving DecidableEq

structure VerificationContext where
  now : ℤ
  maxFutureClockSkew : ℤ
  pinnedRootKeys : Table String (Vector UInt8 32)
  highestTrustBundleVersion : Option UInt64
  persistedDirectory : Option PersistedDirectoryState

structure VerifiedDirectory where
  document : DirectoryDocument
  payloadSha256 : Vector UInt8 32
  trustBundleVersion : UInt64
  signingKeyId : String
  deriving DecidableEq

def maxEnvelopeBytes : ℕ := 2 * 1024 * 1024
def maxGateways : ℕ := 4096
def maxDirectoryLifetime : ℤ := 6 * 60 * 60
def maxTrustBundleLifetime : ℤ := 90 * 24 * 60 * 60
def maxSigningKeys : ℕ := 16
def maxRevocations : ℕ := 8192
def maxCountries : ℕ := 256
def maxFeatureFlags : ℕ := 512
def maxVersionRules : ℕ := 128

def utf8 (s : String) : Bytes := s.toUTF8.data.toList

def directorySignatureDomain : Bytes := utf8 "onionroute-directory-v2\x00"
def trustBundleSignatureDomain : Bytes := utf8 "onionroute-directory-trust-v1\x00"

def domainMessage (domain bytes : Bytes) : Bytes := domain ++ bytes

def saturatingAdd (a b : ℤ) : ℤ := max (-2 ^ 63) (min (2 ^ 63 - 1) (a + b))

def validLifetime (issuedAt expiresAt maximum : ℤ) : Bool :=
  0 < expiresAt - issuedAt ∧ expiresAt - issuedAt ≤ maximum

def validIdentifier (value : String) (max : ℕ) : Bool :=
  value ≠ "" ∧ value.utf8ByteSize ≤ max ∧
    value.toList.all fun c => c.isAlphanum ∨ c ∈ ['.', '_', '-', ':']

def isControl (c : Char) : Bool := c.toNat ≤ 0x1f ∨ (0x7f ≤ c.toNat ∧ c.toNat ≤ 0x9f)

def validLabel (value : String) (max : ℕ) : Bool :=
  value ≠ "" ∧ value.utf8ByteSize ≤ max ∧ value.toList.all fun c => ¬ isControl c

def validCountryCode (value : String) : Bool :=
  value.utf8ByteSize = 2 ∧ value.toList.all fun c => 'A' ≤ c ∧ c ≤ 'Z'

def validProtocol (value : String) : Bool := validIdentifier value 32

def validPlatform (value : String) : Bool :=
  value ∈ ["windows", "macos", "linux", "android", "ios"]

def stripSuffix (value suffix : String) : Option String :=
  if suffix.toList.isSuffixOf value.toList then
    some (String.ofList (value.toList.take (value.length - suffix.length)))
  else none

def checkDistinct {α : Type} (valid : α → Bool) (name : α → String) :
    List α → Finset String → Except VerificationError Unit
  | [], _ => .ok ()
  | x :: rest, seen =>
    if valid x = false ∨ name x ∈ seen then .error .invalidDocument
    else checkDistinct valid name rest (insert (name x) seen)

namespace Externals

variable (ext : Externals)

def decodeArray (n : ℕ) (value : String) : Except VerificationError (Vector UInt8 n) :=
  match ext.base64 value with
  | none => .error .invalidEncoding
  | some bytes =>
    if h : bytes.toArray.size = n then .ok ⟨bytes.toArray, h⟩
    else .error .invalidEncoding

def validOnionAddress (value : String) : Bool :=
  match stripSuffix value ".onion" with
  | none => false
  | some serviceId =>
    if serviceId.utf8ByteSize ≠ 56 ∨
        ¬ serviceId.toList.all fun c => ('a' ≤ c ∧ c ≤ 'z') ∨ ('2' ≤ c ∧ c ≤ '7') then false
    else
      match ext.base32 serviceId.toUpper with
      | none => false
      | some decoded =>
        decoded.length = 35 ∧ decoded.getD 34 0 = 3 ∧
          (decoded.drop 32).take 2 =
            (ext.sha3 (utf8 ".onion checksum" ++ decoded.take 32 ++ [decoded.getD 34 0])).toList.take 2

def validVersion (value : String) : Bool := (ext.parseVersion value).isSome

def validateGateway (gateway : GatewayRecord) (documentIssuedAt documentExpiresAt : ℤ) :
    Except VerificationError Unit :=
  let validGatewaySigningKey : Bool := match ext.decodeArray 32 gateway.publicSigningKey with
    | .error _ => false
    | .ok bytes => (ext.verifyingKey bytes).isSome
  if ¬ validIdentifier gateway.gatewayId 64 ∨ ¬ validCountryCode gateway.countryCode ∨
      ¬ validLabel gateway.cityLabel 64 ∨ ¬ validIdentifier gateway.region 64 ∨
      ¬ validIdentifier gateway.providerGroup 64 ∨ gateway.autonomousSystem = 0 ∨
      ¬ ext.validOnionAddress gateway.onionAddress ∨ 32 < gateway.capabilities.length ∨
      (∃ capability ∈ gateway.capabilities, ¬ validIdentifier capability 64) ∨
      gateway.supportedProtocolVersions = [] ∨ 16 < gateway.supportedProtocolVersions.length ∨
      (∃ version ∈ gateway.supportedProtocolVersions, ¬ validProtocol version) ∨
      ¬ ext.validVersion gateway.minimumClientVersion ∨
      ¬ validGatewaySigningKey ∨
      documentExpiresAt < gateway.validFrom ∨ gateway.validUntil < documentIssuedAt ∨
      gateway.validUntil ≤ gateway.validFrom then
    .error .invalidDocument
  else .ok ()

def checkGateways (issuedAt expiresAt : ℤ) :
    List GatewayRecord → Finset String → Finset String → Except VerificationError Unit
  | [], _, _ => .ok ()
  | gateway :: rest, ids, addresses => do
    ext.validateGateway gateway issuedAt expiresAt
    if gateway.gatewayId ∈ ids ∨ gateway.onionAddress ∈ addresses then throw .invalidDocument
    checkGateways issuedAt expiresAt rest (insert gateway.gatewayId ids)
      (insert gateway.onionAddress addresses)

def validCountry (country : CountryConfig) : Bool :=
  validCountryCode country.countryCode ∧ validIdentifier country.displayNameKey 96 ∧
    country.supportedProfiles ≠ []

def validRevocation (documentExpiresAt : ℤ) (revocation : GatewayRevocation) : Bool :=
  validIdentifier revocation.gatewayId 64 ∧ validIdentifier revocation.reasonCode 64 ∧
    revocation.revokedAt ≤ documentExpiresAt ∧
    ∀ expires ∈ revocation.expiresAt, revocation.revokedAt < expires

def validRule (rule : ClientVersionRule) : Bool :=
  validPlatform rule.platform ∧ rule.channel ∈ ["stable", "beta"] ∧
    ext.validVersion rule.minimumSupportedVersion ∧ ext.validVersion rule.recommendedVersion ∧
    ext.validVersion rule.latestVersion

def validFlag (flag : FeatureFlag) : Bool :=
  validIdentifier flag.key 96 ∧ (∀ platform ∈ flag.platform, validPlatform platform) ∧
    (∀ version ∈ flag.minimumClientVersion, ext.validVersion version) ∧
    ∀ version ∈ flag.maximumClientVersion, ext.validVersion version

def validateDocumentSemantics (document : DirectoryDocument) (now futureSkew : ℤ) :
    Except VerificationError Unit := do
  if document.formatVersion ≠ "2.0" then throw .unsupportedFormat
  if document.version = 0 ∨ saturatingAdd now futureSkew < document.issuedAt ∨
      document.expiresAt ≤ now ∨
      ¬ validLifetime document.issuedAt document.expiresAt maxDirectoryLifetime then
    throw .invalidValidityWindow
  if maxGateways < document.gateways.length ∨ maxCountries < document.countries.length ∨
      maxRevocations < document.revocations.length ∨
      maxVersionRules < document.clientVersionRules.length ∨
      maxFeatureFlags < document.featureFlags.length then
    throw .invalidDocument
  ext.checkGateways document.issuedAt document.expiresAt document.gateways ∅ ∅
  checkDistinct validCountry CountryConfig.countryCode document.countries ∅
  checkDistinct (validRevocation document.expiresAt) GatewayRevocation.gatewayId
    document.revocations ∅
  if ∃ rule ∈ document.clientVersionRules, ¬ ext.validRule rule then throw .invalidDocument
  checkDistinct ext.validFlag FeatureFlag.key document.featureFlags ∅

def validSigningKey (bundle : RootTrustBundle) (key : SigningKeyCertificate) : Bool :=
  validIdentifier key.keyId 64 ∧ key.algorithm = "ed25519" ∧ bundle.issuedAt ≤ key.validFrom ∧
    key.validUntil ≤ bundle.expiresAt ∧ key.validFrom < key.validUntil ∧
    (ext.decodeArray 32 key.publicKey).isOk

def validateTrustBundle (bundle : RootTrustBundle) (context : VerificationContext) :
    Except VerificationError Unit := do
  if bundle.bundleVersion = 0 ∨
      saturatingAdd context.now context.maxFutureClockSkew < bundle.issuedAt ∨
      bundle.expiresAt ≤ context.now ∨
      ¬ validLifetime bundle.issuedAt bundle.expiresAt maxTrustBundleLifetime ∨
      bundle.signingKeys = [] ∨ maxSigningKeys < bundle.signingKeys.length ∨
      maxSigningKeys < bundle.revokedSigningKeyIds.length ∨
      ¬ validIdentifier bundle.rootKeyId 64 then
    throw .invalidValidityWindow
  if ∃ highest ∈ context.highestTrustBundleVersion, bundle.bundleVersion < highest then
    throw .rollback
  checkDistinct (ext.validSigningKey bundle) SigningKeyCertificate.keyId bundle.signingKeys ∅
  if ∃ id ∈ bundle.revokedSigningKeyIds, ¬ validIdentifier id 64 then throw .invalidDocument

def orError {α : Type} (e : VerificationError) : Option α → Except VerificationError α
  | none => .error e
  | some a => .ok a

def verifyTrustBundle (envelope : SignedDirectory) (context : VerificationContext) :
    Except VerificationError Unit := do
  let bundle := envelope.trustBundle.bundle
  if bundle.formatVersion ≠ 1 then throw .unsupportedFormat
  ext.validateTrustBundle bundle context
  let rootKey ← orError .untrustedRoot (context.pinnedRootKeys.lookup bundle.rootKeyId)
  let verifyingKey ← orError .invalidEncoding (ext.verifyingKey rootKey)
  let canonical ← orError .invalidEncoding (ext.canonicalBundle bundle)
  let signature ← ext.decodeArray 64 envelope.trustBundle.signature
  if ¬ ext.verifies verifyingKey (domainMessage trustBundleSignatureDomain canonical) signature then
    throw .invalidSignature

def verifyDirectory (envelopeBytes : Bytes) (context : VerificationContext) :
    Except VerificationError VerifiedDirectory := do
  if context.maxFutureClockSkew < 0 ∨ 900 < context.maxFutureClockSkew then
    throw .invalidValidityWindow
  if maxEnvelopeBytes < envelopeBytes.length then throw .envelopeTooLarge
  let envelope ← orError .invalidEncoding (ext.decodeEnvelope envelopeBytes)
  if envelope.envelopeVersion ≠ 1 then throw .unsupportedFormat
  ext.verifyTrustBundle envelope context
  let bundle := envelope.trustBundle.bundle
  let certificate ← orError .unauthorizedSigningKey
    (bundle.signingKeys.find? fun key => key.keyId = envelope.signingKeyId)
  if certificate.algorithm ≠ "ed25519" ∨ context.now < certificate.validFrom ∨
      certificate.validUntil ≤ context.now ∨
      envelope.signingKeyId ∈ bundle.revokedSigningKeyIds then
    throw .unauthorizedSigningKey
  let publicKey ← ext.decodeArray 32 certificate.publicKey
  let verifyingKey ← orError .invalidEncoding (ext.verifyingKey publicKey)
  let payload ← orError .invalidEncoding (ext.base64 envelope.payload)
  if maxEnvelopeBytes < payload.length then throw .envelopeTooLarge
  let signature ← ext.decodeArray 64 envelope.signature
  if ¬ ext.verifies verifyingKey (domainMessage directorySignatureDomain payload) signature then
    throw .invalidSignature
  let document ← orError .invalidEncoding (ext.decodeDocument payload)
  let canonical ← orError .invalidEncoding (ext.canonicalDocument document)
  if canonical ≠ payload then throw .invalidEncoding
  ext.validateDocumentSemantics document context.now context.maxFutureClockSkew
  let payloadSha256 := ext.sha256 payload
  if ∃ previous ∈ context.persistedDirectory, document.version < previous.version ∨
      (document.version = previous.version ∧ payloadSha256 ≠ previous.payloadSha256) then
    throw .rollback
  return ⟨document, payloadSha256, bundle.bundleVersion, envelope.signingKeyId⟩

end Externals

end OnionRoute.DirectoryClient
