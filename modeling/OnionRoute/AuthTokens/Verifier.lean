import OnionRoute.AuthTokens.Codec
import OnionRoute.Library.Table

/-! Verification of capability tokens, with a store that counts the sessions of each token. -/

namespace OnionRoute.AuthTokens

open Library
open GatewayProtocol (utf8Bytes)

@[ext]
structure SessionLease where
  tokenId : TokenId
  sessionId : Vector UInt8 32
  deriving DecidableEq

inductive TokenStoreError
  | alreadyReserved
  | limitReached
  | unavailable
  deriving DecidableEq

structure TokenReservation where
  tokenId : TokenId
  sessionId : Vector UInt8 32
  now : Int64
  expiresAt : Int64
  maxActiveSessions : UInt16

structure TokenSessions where
  expiresAt : Int64
  sessions : Finset (Vector UInt8 32)
  deriving DecidableEq

structure InMemoryTokenStore where
  entries : Table TokenId TokenSessions
  poisoned : Bool

namespace InMemoryTokenStore

def reserve (reservation : TokenReservation) :
    EStateM TokenStoreError InMemoryTokenStore SessionLease := do
  let store ← get
  if store.poisoned then throw .unavailable
  let entries := Table.retain (fun _ state => state.expiresAt > reservation.now) store.entries
  let found := (entries.lookup reservation.tokenId).getD ⟨reservation.expiresAt, ∅⟩
  let state := { found with expiresAt := min found.expiresAt reservation.expiresAt }
  set { store with entries := entries.insert reservation.tokenId state }
  if reservation.sessionId ∈ state.sessions then throw .alreadyReserved
  if state.sessions.card ≥ reservation.maxActiveSessions.toNat then throw .limitReached
  let state := { state with sessions := insert reservation.sessionId state.sessions }
  set { store with entries := entries.insert reservation.tokenId state }
  pure { tokenId := reservation.tokenId, sessionId := reservation.sessionId }

def release (lease : SessionLease) : EStateM TokenStoreError InMemoryTokenStore Unit := do
  let store ← get
  if store.poisoned then throw .unavailable
  match store.entries.lookup lease.tokenId with
  | none => pure ()
  | some state =>
    let sessions := state.sessions.erase lease.sessionId
    if sessions = ∅ then set { store with entries := store.entries.erase lease.tokenId }
    else set { store with entries := store.entries.insert lease.tokenId { state with sessions } }

end InMemoryTokenStore

structure IssuerPublicKey where
  keyId : String
  publicKey : Vector UInt8 32
  notBefore : Int64
  notAfter : Int64

structure VerifierConfig where
  requireProofOfPossession : Bool
  maximumClockSkewSeconds : Int64

inductive RevocationStatus
  | active
  | revoked
  | snapshotStale
  deriving DecidableEq

abbrev RevocationProvider := String → TokenId → Int64 → RevocationStatus

structure VerificationRequest where
  encodedToken : Bytes
  requiredRole : GatewayRole
  gatewayRegion : RegionSet
  now : Int64
  gatewayBinding : Vector UInt8 32
  challenge : Vector UInt8 32
  proofOfPossession : Option Bytes

structure VerifiedCapability where
  policy : CapabilityPolicy
  expiresAt : Int64
  lease : SessionLease
  deriving DecidableEq

structure Crypto where
  Key : Type
  verifyingKey : Vector UInt8 32 → Option Key
  verifyStrict : Key → Bytes → Vector UInt8 64 → Bool
  sha256 : Bytes → Vector UInt8 32

def proofOfPossessionMessage (tokenId : TokenId) (gatewayBinding challenge : Vector UInt8 32) :
    Bytes :=
  utf8Bytes "onionroute-pop-v1\x00" ++ tokenId.bytes.toList ++ gatewayBinding.toList ++
    challenge.toList

def mapStoreError : TokenStoreError → TokenError
  | .alreadyReserved => .replayDetected
  | .limitReached => .connectionLimitReached
  | .unavailable => .replayProtectionUnavailable

def saturatingAdd (a b : Int64) : Int64 := Int64.ofIntClamp (a.toInt + b.toInt)

structure LocalTokenVerifier where
  prost : Prost
  crypto : Crypto
  keys : Table String IssuerPublicKey
  config : VerifierConfig

namespace LocalTokenVerifier

def insertKey (keys : Table String IssuerPublicKey) (key : IssuerPublicKey) :
    Except TokenError (Table String IssuerPublicKey) :=
  if key.keyId.utf8ByteSize = 0 ∨ keys.contains key.keyId then throw .invalidKeyId
  else pure (keys.insert key.keyId key)

def keyMap (keys : List IssuerPublicKey) (config : VerifierConfig) :
    Except TokenError (Table String IssuerPublicKey) := do
  if config.maximumClockSkewSeconds < 0 ∨ config.maximumClockSkewSeconds > 120 then
    throw .invalidTimeWindow
  keys.foldlM insertKey ∅

def new (prost : Prost) (crypto : Crypto) (keys : List IssuerPublicKey) (config : VerifierConfig) :
    Except TokenError LocalTokenVerifier :=
  match keyMap keys config with
  | .ok keys => .ok { prost, crypto, keys, config }
  | .error e => .error e

variable (verifier : LocalTokenVerifier)

def checkSignature (key : IssuerPublicKey) (message : Bytes) (signature : Vector UInt8 64) :
    Except TokenError Unit :=
  match verifier.crypto.verifyingKey key.publicKey with
  | none => .error .invalidSignature
  | some verifyingKey =>
    if verifier.crypto.verifyStrict verifyingKey message signature then .ok ()
    else .error .invalidSignature

def checkRevocation : RevocationStatus → Except TokenError Unit
  | .active => .ok ()
  | .revoked => .error .revoked
  | .snapshotStale => .error .revocationDataStale

def checkProof (claims : CapabilityClaims) (request : VerificationRequest) :
    Except TokenError Unit :=
  match claims.proofOfPossessionPublicKey, request.proofOfPossession with
  | some publicKey, some proof =>
    match sized 64 proof, verifier.crypto.verifyingKey publicKey with
    | .ok signature, some proofKey =>
      let message :=
        proofOfPossessionMessage claims.tokenId request.gatewayBinding request.challenge
      if verifier.crypto.verifyStrict proofKey message signature then .ok ()
      else .error .invalidProofOfPossession
    | _, _ => .error .invalidProofOfPossession
  | _, _ =>
    if verifier.config.requireProofOfPossession then .error .proofOfPossessionRequired else .ok ()

def authenticate (revocations : RevocationProvider) (request : VerificationRequest) :
    Except TokenError CapabilityClaims := do
  let decoded ← decodeToken verifier.prost request.encodedToken
  let claims := decoded.claims
  if saturatingAdd request.now verifier.config.maximumClockSkewSeconds < claims.notBefore then
    throw .notYetValid
  if request.now ≥ claims.expiresAt then throw .expired
  match verifier.keys.lookup claims.issuerKeyId with
  | none => throw .unknownIssuerKey
  | some key => do
    if claims.notBefore < key.notBefore ∨ claims.expiresAt > key.notAfter then
      throw .issuerKeyOutsideValidity
    verifier.checkSignature key decoded.claimsBytes decoded.signature
    checkRevocation (revocations claims.issuerKeyId claims.tokenId request.now)
    if !claims.policy.roleAllowed request.requiredRole then throw .roleNotAllowed
    if !claims.policy.regionSet.allows request.gatewayRegion then throw .regionNotAllowed
    verifier.checkProof claims request
    pure claims

def sessionIdOf (claims : CapabilityClaims) (request : VerificationRequest) : Vector UInt8 32 :=
  verifier.crypto.sha256 (utf8Bytes "onionroute-session-lease-v1\x00" ++
    claims.tokenId.bytes.toList ++ request.gatewayBinding.toList ++ request.challenge.toList)

def reservationOf (claims : CapabilityClaims) (request : VerificationRequest) :
    TokenReservation where
  tokenId := claims.tokenId
  sessionId := verifier.sessionIdOf claims request
  now := request.now
  expiresAt := claims.expiresAt
  maxActiveSessions := claims.policy.connectionLimits.maxActiveSessions

def verify (revocations : RevocationProvider) (request : VerificationRequest) :
    EStateM TokenError InMemoryTokenStore VerifiedCapability := do
  let claims ← verifier.authenticate revocations request
  let reservation := verifier.reservationOf claims request
  let lease ← (InMemoryTokenStore.reserve reservation).adaptExcept mapStoreError
  pure { policy := claims.policy, expiresAt := claims.expiresAt, lease }

def release (capability : VerifiedCapability) : EStateM TokenError InMemoryTokenStore Unit :=
  (InMemoryTokenStore.release capability.lease).adaptExcept mapStoreError

end LocalTokenVerifier

end OnionRoute.AuthTokens
