import OnionRoute.AuthTokens.Verifier

/-! The issuer of capability tokens. The entropy source gives no bytes when it fails. -/

namespace OnionRoute.AuthTokens

open Library

structure SigningKey where
  publicKey : Vector UInt8 32
  sign : Bytes → Vector UInt8 64

structure IssueTokenRequest where
  policy : CapabilityPolicy
  notBefore : Int64
  expiresAt : Int64
  proofOfPossessionPublicKey : Option (Vector UInt8 32)

structure IssuedToken where
  encoded : Bytes
  notBefore : Int64
  expiresAt : Int64
  deriving DecidableEq

def claimsSigningBytes (claims : CapabilityClaims) : Except TokenError Bytes := do
  claims.validateShape
  pure (claimsToWire claims).encode

structure LocalEd25519TokenIssuer where
  keyId : String
  signingKey : SigningKey
  keyNotBefore : Int64
  keyNotAfter : Int64

namespace LocalEd25519TokenIssuer

variable (issuer : LocalEd25519TokenIssuer)

def publicKey : IssuerPublicKey where
  keyId := issuer.keyId
  publicKey := issuer.signingKey.publicKey
  notBefore := issuer.keyNotBefore
  notAfter := issuer.keyNotAfter

def checkProofKey (crypto : Crypto) : Option (Vector UInt8 32) → Except TokenError Unit
  | none => .ok ()
  | some publicKey =>
    if (crypto.verifyingKey publicKey).isSome then .ok () else .error .invalidProofOfPossession

def claimsOf (request : IssueTokenRequest) (tokenId : Vector UInt8 32) : CapabilityClaims where
  tokenVersion := tokenVersionV1
  tokenId := ⟨tokenId⟩
  policy := request.policy
  notBefore := request.notBefore
  expiresAt := request.expiresAt
  issuerKeyId := issuer.keyId
  proofOfPossessionPublicKey := request.proofOfPossessionPublicKey

def drawn : Option (Vector UInt8 32) → Except TokenError (Vector UInt8 32)
  | some bytes => .ok bytes
  | none => .error .randomnessUnavailable

def issue (crypto : Crypto) (request : IssueTokenRequest) (entropy : Option (Vector UInt8 32)) :
    Except TokenError IssuedToken := do
  request.policy.validateCanonical
  CapabilityPolicy.validateWindow request.notBefore request.expiresAt
  if request.notBefore < issuer.keyNotBefore ∨ request.expiresAt > issuer.keyNotAfter then
    throw .issuerKeyOutsideValidity
  checkProofKey crypto request.proofOfPossessionPublicKey
  let tokenId ← drawn entropy
  let claims := issuer.claimsOf request tokenId
  let signingBytes ← claimsSigningBytes claims
  let encoded ← encodeToken claims (issuer.signingKey.sign signingBytes)
  pure { encoded, notBefore := claims.notBefore, expiresAt := claims.expiresAt }

end LocalEd25519TokenIssuer

end OnionRoute.AuthTokens
