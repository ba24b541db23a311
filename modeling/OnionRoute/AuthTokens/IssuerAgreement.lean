import OnionRoute.AuthTokens.Issuer
import OnionRoute.AuthTokens.SessionLimit

/-! When a verifier accepts a token that the issuer has made. -/

namespace OnionRoute.AuthTokens

open Library LocalTokenVerifier LocalEd25519TokenIssuer

def SigningKey.Signs (key : SigningKey) (crypto : Crypto) (message : Bytes) : Prop :=
  ∃ verifyingKey, crypto.verifyingKey key.publicKey = some verifyingKey ∧
    crypto.verifyStrict verifyingKey message (key.sign message) = true

section Keys

variable {table table' : Table String IssuerPublicKey} {key : IssuerPublicKey}
  {keys : List IssuerPublicKey}

lemma insertKey_eq_ok :
    insertKey table key = .ok table' ↔
      key.keyId.utf8ByteSize ≠ 0 ∧ table.lookup key.keyId = none ∧
        table' = table.insert key.keyId key := by
  rw [insertKey, ite_throw_eq_ok, not_or, Table.contains,
    Option.not_isSome_iff_eq_none, and_assoc, eq_comm (a := table')]

lemma lookup_of_foldlM (h : keys.foldlM insertKey table = .ok table') :
    (∀ key ∈ keys, table'.lookup key.keyId = some key) ∧
      ∀ {id key}, table.lookup id = some key → table'.lookup id = some key := by
  induction keys generalizing table with
  | nil =>
    rw [List.foldlM_nil, pure_eq_ok] at h
    subst h
    exact ⟨by simp, id⟩
  | cons key keys ih =>
    rw [List.foldlM_cons, bind_eq_ok] at h
    obtain ⟨next, hinsert, h⟩ := h
    obtain ⟨-, hnew, rfl⟩ := insertKey_eq_ok.mp hinsert
    obtain ⟨hrest, hkept⟩ := ih h
    refine ⟨List.forall_mem_cons.mpr ⟨hkept (AList.lookup_insert _), hrest⟩, ?_⟩
    intro id key' hkey'
    refine hkept ?_
    rwa [Table.lookup_insert_of_ne]
    rintro rfl
    rw [hnew] at hkey'
    cases hkey'

end Keys

section Times

variable {now skew : Int64}

lemma toInt_saturatingAdd (hskew : 0 ≤ skew) :
    (saturatingAdd now skew).toInt = min (now.toInt + skew.toInt) (2 ^ 63 - 1) := by
  have hzero : 0 ≤ skew.toInt := by simpa [Int64.le_iff_toInt_le] using hskew
  have hlow := now.le_toInt
  have hmin : Int64.minValue.toInt = -2 ^ 63 := by decide
  have hmax : Int64.maxValue.toInt = 2 ^ 63 - 1 := by decide
  by_cases hhigh : now.toInt + skew.toInt ≤ Int64.maxValue.toInt
  · rw [saturatingAdd, Int64.toInt_ofIntClamp (by omega) hhigh, min_eq_left (hmax ▸ hhigh)]
  · rw [saturatingAdd, Int64.ofIntClamp, dif_pos (by omega), dif_neg hhigh]
    omega

lemma saturatingAdd_lt {notBefore : Int64} (hskew : 0 ≤ skew) :
    saturatingAdd now skew < notBefore ↔ now.toInt + skew.toInt < notBefore.toInt := by
  have hhigh := notBefore.toInt_lt
  rw [Int64.lt_iff_toInt_lt, toInt_saturatingAdd hskew]
  omega

end Times

variable {store : InMemoryTokenStore} {e : TokenError}

section Presentation

def Proves (crypto : Crypto) (publicKey : Vector UInt8 32) (message proof : Bytes) : Prop :=
  ∃ key signature, crypto.verifyingKey publicKey = some key ∧ sized 64 proof = .ok signature ∧
    crypto.verifyStrict key message signature = true

structure Presentable (crypto : Crypto) (config : VerifierConfig) (claims : CapabilityClaims)
    (revocations : RevocationProvider) (request : VerificationRequest) : Prop where
  started : claims.notBefore.toInt ≤ request.now.toInt + config.maximumClockSkewSeconds.toInt
  live : request.now < claims.expiresAt
  active : revocations claims.issuerKeyId claims.tokenId request.now = .active
  role : request.requiredRole ∈ claims.policy.allowedGatewayRoles
  region : claims.policy.regionSet = .global ∨ claims.policy.regionSet = request.gatewayRegion
  proven : ∀ publicKey proof, claims.proofOfPossessionPublicKey = some publicKey →
    request.proofOfPossession = some proof → Proves crypto publicKey
      (proofOfPossessionMessage claims.tokenId request.gatewayBinding request.challenge) proof
  bound : config.requireProofOfPossession = true →
    claims.proofOfPossessionPublicKey.isSome ∧ request.proofOfPossession.isSome

structure Free (store : InMemoryTokenStore) (r : TokenReservation) : Prop where
  lock : store.poisoned = false
  new : r.sessionId ∉ (store.found r).sessions
  room : (store.found r).sessions.card < r.maxActiveSessions.toNat

variable {verifier : LocalTokenVerifier} {revocations : RevocationProvider}
  {request : VerificationRequest} {claims : CapabilityClaims} {key : IssuerPublicKey}
  {signature : Vector UInt8 64} {claimsBytes : Bytes}

lemma checkProof_eq_ok : verifier.checkProof claims request = .ok () ↔
    (∀ publicKey proof, claims.proofOfPossessionPublicKey = some publicKey →
      request.proofOfPossession = some proof → Proves verifier.crypto publicKey
        (proofOfPossessionMessage claims.tokenId request.gatewayBinding request.challenge) proof) ∧
    (verifier.config.requireProofOfPossession = true →
      claims.proofOfPossessionPublicKey.isSome ∧ request.proofOfPossession.isSome) := by
  rw [checkProof]
  cases hkey : claims.proofOfPossessionPublicKey with
  | none => simp
  | some publicKey =>
    cases hproof : request.proofOfPossession with
    | none => simp
    | some proof =>
      simp only [Proves, Option.some.injEq, forall_eq', Option.isSome_some, and_self, imp_true_iff,
        and_true, forall_apply_eq_imp_iff]
      cases sized 64 proof with
      | error e => simp
      | ok signature =>
        cases verifier.crypto.verifyingKey publicKey with
        | none => simp
        | some key => simp

def presentationErrors : List TokenError :=
  [.notYetValid, .expired, .revoked, .revocationDataStale, .roleNotAllowed, .regionNotAllowed,
    .proofOfPossessionRequired, .invalidProofOfPossession]

structure Authentic (verifier : LocalTokenVerifier) (request : VerificationRequest)
    (claims : CapabilityClaims) : Prop where
  signed : ∃ claimsBytes signature key,
    decodeToken verifier.prost request.encodedToken = .ok ⟨claims, claimsBytes, signature⟩ ∧
    verifier.keys.lookup claims.issuerKeyId = some key ∧
    ¬ (claims.notBefore < key.notBefore ∨ claims.expiresAt > key.notAfter) ∧
    verifier.checkSignature key claimsBytes signature = .ok ()
  skew : 0 ≤ verifier.config.maximumClockSkewSeconds

variable {status : RevocationStatus}

lemma checkRevocation_eq_ok {u : Unit} : checkRevocation status = .ok u ↔ status = .active := by
  cases status <;> simp [checkRevocation]

lemma error_of_checkRevocation (h : checkRevocation status = .error e) :
    e ∈ presentationErrors := by
  cases status with
  | active => cases h
  | revoked => cases h; decide
  | snapshotStale => cases h; decide

lemma error_of_checkProof (h : verifier.checkProof claims request = .error e) :
    e ∈ presentationErrors := by
  unfold checkProof at h
  split at h
  · split at h
    · dsimp only at h
      split_ifs at h
      cases h
      decide
    · cases h
      decide
  · split_ifs at h
    cases h
    decide

namespace Authentic

lemma authenticate_eq_ok (h : Authentic verifier request claims) {claims' : CapabilityClaims} :
    verifier.authenticate revocations request = .ok claims' ↔
      Presentable verifier.crypto verifier.config claims revocations request ∧ claims = claims' := by
  obtain ⟨claimsBytes, signature, key, hdecode, hkey, hwindow, hsignature⟩ := h.signed
  simp only [authenticate, hdecode, bind_eq_ok, guard_eq_ok, Except.ok.injEq,
    exists_eq_left', hkey, hwindow, not_false_eq_true, true_and, hsignature, pure_eq_ok,
    checkRevocation_eq_ok, saturatingAdd_lt h.skew, not_lt, ge_iff_le]
  constructor
  · rintro ⟨hstarted, hlive, _, _, hactive, hrole, hregion, _, hproof, rfl⟩
    obtain ⟨hproven, hbound⟩ := checkProof_eq_ok.mp hproof
    refine ⟨⟨hstarted, Int64.not_le.mp hlive, hactive, ?_, ?_, hproven, hbound⟩, rfl⟩
    · simpa [CapabilityPolicy.roleAllowed] using hrole
    · simpa [RegionSet.allows, or_iff_not_imp_left] using hregion
  · rintro ⟨hp, rfl⟩
    refine ⟨hp.started, Int64.not_le.mpr hp.live, (), (), hp.active, ?_, ?_, (),
      checkProof_eq_ok.mpr ⟨hp.proven, hp.bound⟩, rfl⟩
    · simpa [CapabilityPolicy.roleAllowed] using hp.role
    · simpa [RegionSet.allows, or_iff_not_imp_left] using hp.region

lemma error_mem (h : Authentic verifier request claims)
    (he : verifier.authenticate revocations request = .error e) : e ∈ presentationErrors := by
  obtain ⟨claimsBytes, signature, key, hdecode, hkey, hwindow, hsignature⟩ := h.signed
  simp only [authenticate, hdecode, bind_eq_error, guard_eq_error, reduceCtorEq,
    Except.ok.injEq, false_or, exists_eq_left', hkey, hwindow, false_and, not_false_eq_true,
    true_and, hsignature, pure_eq_error, and_false, exists_false, or_false] at he
  obtain ⟨-, rfl⟩ | ⟨-, ⟨-, rfl⟩ | ⟨-, _, hrevocation | ⟨_, -, ⟨-, rfl⟩ | ⟨-, ⟨-, rfl⟩ |
    ⟨-, hproof⟩⟩⟩⟩⟩ := he
  · decide
  · decide
  · exact error_of_checkRevocation hrevocation
  · decide
  · decide
  · exact error_of_checkProof hproof

end Authentic

lemma reserve_isOk_iff {r : TokenReservation} :
    (∃ lease store', InMemoryTokenStore.reserve r store = .ok lease store') ↔ Free store r := by
  simp only [InMemoryTokenStore.reserve, state_bind_eq_ok, state_get_eq_ok, state_guard_eq_ok,
    state_set_eq_ok, state_pure_eq_ok]
  constructor
  · rintro ⟨lease, store', _, _, ⟨rfl, rfl⟩, hlock, _, _, rfl, hnew, hroom, -⟩
    exact ⟨by simpa using hlock, hnew, not_le.mp hroom⟩
  · intro h
    refine ⟨_, _, store, store, ⟨rfl, rfl⟩, ?_, ⟨⟩, _, rfl, h.new, not_le.mpr h.room, ⟨⟩, _, rfl,
      rfl, rfl⟩
    simpa using h.lock

lemma verify_isOk_iff (h : Authentic verifier request claims) :
    (∃ capability store', verifier.verify revocations request store = .ok capability store') ↔
      Presentable verifier.crypto verifier.config claims revocations request ∧
        Free store (verifier.reservationOf claims request) := by
  constructor
  · rintro ⟨capability, store', hverify⟩
    cases hclaims : verifier.authenticate revocations request with
    | error e =>
      rw [verify_rejected hclaims] at hverify
      cases hverify
    | ok claims' =>
      obtain ⟨hp, rfl⟩ := h.authenticate_eq_ok.mp hclaims
      rw [verify_authenticated hclaims] at hverify
      unfold capabilityOf at hverify
      split at hverify
      next lease store'' hreserve => exact ⟨hp, reserve_isOk_iff.mp ⟨lease, store'', hreserve⟩⟩
      next => cases hverify
  · rintro ⟨hp, hfree⟩
    obtain ⟨lease, store', hreserve⟩ := reserve_isOk_iff.mpr hfree
    rw [verify_authenticated (h.authenticate_eq_ok.mpr ⟨hp, rfl⟩), hreserve]
    exact ⟨_, _, rfl⟩

def refusals : List TokenError :=
  presentationErrors ++ [.replayDetected, .connectionLimitReached, .replayProtectionUnavailable]

lemma error_of_verify (h : Authentic verifier request claims) {store' : InMemoryTokenStore}
    (he : verifier.verify revocations request store = .error e store') :
    e ∈ refusals := by
  cases hclaims : verifier.authenticate revocations request with
  | error e' =>
    rw [verify_rejected hclaims] at he
    cases he
    exact List.mem_append_left _ (h.error_mem hclaims)
  | ok claims' =>
    rw [verify_authenticated hclaims] at he
    unfold capabilityOf at he
    split at he
    next => cases he
    next e' _ _ =>
      cases he
      cases e' <;> decide

end Presentation

section Issuance

variable {crypto : Crypto} {prost : Prost} {issuer : LocalEd25519TokenIssuer}
  {issuance : IssueTokenRequest} {tokenId : Vector UInt8 32} {token : IssuedToken}
  {keys : List IssuerPublicKey} {config : VerifierConfig} {verifier : LocalTokenVerifier}
  {request : VerificationRequest}

def LocalEd25519TokenIssuer.signatureOf (issuer : LocalEd25519TokenIssuer)
    (claims : CapabilityClaims) : Vector UInt8 64 :=
  issuer.signingKey.sign (claimsToWire claims).encode

lemma encodeToken_of_issue (h : issuer.issue crypto issuance (some tokenId) = .ok token) :
    encodeToken (issuer.claimsOf issuance tokenId)
      (issuer.signatureOf (issuer.claimsOf issuance tokenId)) = .ok token.encoded ∧
    ¬ (issuance.notBefore < issuer.keyNotBefore ∨ issuance.expiresAt > issuer.keyNotAfter) := by
  simp only [issue, bind_eq_ok, guard_eq_ok, pure_eq_ok,
    drawn, Except.ok.injEq, exists_eq_left', claimsSigningBytes] at h
  obtain ⟨_, -, _, -, hwindow, _, -, bytes, ⟨_, -, rfl⟩, encoded, hencode, rfl⟩ := h
  exact ⟨hencode, hwindow⟩

lemma new_eq_ok (h : new prost crypto keys config = .ok verifier) :
    ∃ table, verifier = ⟨prost, crypto, table, config⟩ ∧ 0 ≤ config.maximumClockSkewSeconds ∧
      ∀ key ∈ keys, table.lookup key.keyId = some key := by
  unfold new at h
  split at h
  next table hkeys =>
    rw [keyMap, guard_eq_ok, not_or] at hkeys
    exact ⟨table, (Except.ok.inj h).symm, Int64.not_lt.mp hkeys.1.1, (lookup_of_foldlM hkeys.2).1⟩
  next => cases h

lemma authentic_of_issue (hissue : issuer.issue crypto issuance (some tokenId) = .ok token)
    (hsigns : issuer.signingKey.Signs crypto
      (claimsToWire (issuer.claimsOf issuance tokenId)).encode)
    (hreads : prost.ReadsBack (issuer.claimsOf issuance tokenId)
      (issuer.signatureOf (issuer.claimsOf issuance tokenId)))
    (hverifier : new prost crypto keys config = .ok verifier)
    (hkey : issuer.publicKey ∈ keys) (htoken : request.encodedToken = token.encoded) :
    Authentic verifier request (issuer.claimsOf issuance tokenId) := by
  obtain ⟨hencode, hwindow⟩ := encodeToken_of_issue hissue
  obtain ⟨table, rfl, hskew, hkeys⟩ := new_eq_ok hverifier
  have hdecode := decodeToken_encodeToken hreads hencode
  rw [← htoken] at hdecode
  refine ⟨⟨_, _, issuer.publicKey, hdecode, hkeys _ hkey, hwindow, ?_⟩, hskew⟩
  obtain ⟨verifyingKey, hparsed, hverifies⟩ := hsigns
  simp only [checkSignature, publicKey, hparsed]
  exact if_pos hverifies

/-- A verifier that knows the issuer accepts its tokens exactly when they may be presented as they
are and the store has room; what is wrong with the token itself is never a reason to refuse one. -/
theorem issued_token_accepted_iff
    (hissue : issuer.issue crypto issuance (some tokenId) = .ok token)
    (hsigns : issuer.signingKey.Signs crypto
      (claimsToWire (issuer.claimsOf issuance tokenId)).encode)
    (hreads : prost.ReadsBack (issuer.claimsOf issuance tokenId)
      (issuer.signatureOf (issuer.claimsOf issuance tokenId)))
    (hverifier : LocalTokenVerifier.new prost crypto keys config = .ok verifier)
    (hkey : issuer.publicKey ∈ keys) (revocations : RevocationProvider)
    (store : InMemoryTokenStore) (htoken : request.encodedToken = token.encoded) :
    ((∃ capability store', verifier.verify revocations request store = .ok capability store') ↔
      Presentable crypto config (issuer.claimsOf issuance tokenId) revocations request ∧
        Free store (verifier.reservationOf (issuer.claimsOf issuance tokenId) request)) ∧
    ∀ e store', verifier.verify revocations request store = .error e store' → e ∈ refusals := by
  have hauthentic := authentic_of_issue hissue hsigns hreads hverifier hkey htoken
  obtain ⟨table, rfl, -⟩ := new_eq_ok hverifier
  exact ⟨verify_isOk_iff hauthentic, fun e store' => error_of_verify hauthentic⟩

end Issuance

namespace Sample

def issuer : LocalEd25519TokenIssuer where
  keyId := "issuer-2026"
  signingKey := ⟨issuerKey, fun _ => signature⟩
  keyNotBefore := 0
  keyNotAfter := 1900000000

def issuance : IssueTokenRequest where
  policy := claims.policy
  notBefore := claims.notBefore
  expiresAt := claims.expiresAt
  proofOfPossessionPublicKey := some proofKey

def issued : IssuedToken where
  encoded := (envelopeOf claims signature).encode
  notBefore := claims.notBefore
  expiresAt := claims.expiresAt

lemma issue_issuance : issuer.issue crypto issuance (some claims.tokenId.bytes) = .ok issued := by
  decide +kernel

lemma signs_claims : issuer.signingKey.Signs crypto (claimsToWire claims).encode :=
  ⟨issuerKey, rfl, decide_eq_true (.inl ⟨rfl, rfl, rfl⟩)⟩

def verifierWith (config : VerifierConfig) : LocalTokenVerifier :=
  ⟨prost, crypto, AList.singleton "issuer-2026" issuer.publicKey, config⟩

lemma new_verifierWith (require : Bool) :
    new prost crypto [issuer.publicKey] ⟨require, 30⟩ =
      .ok (verifierWith ⟨require, 30⟩) := by
  have hkeys : keyMap [issuer.publicKey] ⟨require, 30⟩ =
      .ok (AList.singleton "issuer-2026" issuer.publicKey) := by
    have hskew : ¬ ((30 : Int64) < 0 ∨ (30 : Int64) > 120) := by decide +kernel
    rw [keyMap, guard_eq_ok]
    exact ⟨hskew, rfl⟩
  rw [new, hkeys]
  rfl

lemma authentic_request (require : Bool) (proof : Option Bytes) :
    Authentic (verifierWith ⟨require, 30⟩) { request with proofOfPossession := proof } claims :=
  authentic_of_issue issue_issuance signs_claims readsBack (new_verifierWith require)
    (List.mem_singleton_self _) rfl

lemma presentable_request : Presentable crypto ⟨true, 30⟩ claims revocations request :=
  ((authentic_request true (some proof)).authenticate_eq_ok.mp authenticate_request).1

lemma free_request : Free .default (verifier.reservationOf claims request) :=
  ⟨rfl, by decide +kernel, by decide +kernel⟩

end Sample

open Sample in
theorem issued_token_accepted_plus :
    issuer.issue crypto issuance (some claims.tokenId.bytes) = .ok issued ∧
    request.encodedToken = issued.encoded ∧
    ∃ capability store, (verifierWith ⟨true, 30⟩).verify revocations request .default =
      .ok capability store :=
  ⟨issue_issuance, rfl, (issued_token_accepted_iff issue_issuance signs_claims readsBack
    (new_verifierWith true) (List.mem_singleton_self _) revocations .default rfl).1.mpr
      ⟨presentable_request, free_request⟩⟩

open Sample in
theorem unneeded_proof_refused :
    issuer.issue crypto issuance (some claims.tokenId.bytes) = .ok issued ∧
    LocalTokenVerifier.new prost crypto [issuer.publicKey] ⟨false, 30⟩ =
      .ok (verifierWith ⟨false, 30⟩) ∧
    Free .default ((verifierWith ⟨false, 30⟩).reservationOf claims
      { request with proofOfPossession := some [] }) ∧
    (claims.notBefore.toInt ≤ request.now.toInt + 30 ∧ request.now < claims.expiresAt ∧
      revocations claims.issuerKeyId claims.tokenId request.now = .active ∧
      claims.policy.roleAllowed request.requiredRole = true ∧
      claims.policy.regionSet.allows request.gatewayRegion = true) ∧
    ¬ ∃ capability store, (verifierWith ⟨false, 30⟩).verify revocations
      { request with proofOfPossession := some [] } .default = .ok capability store := by
  refine ⟨issue_issuance, new_verifierWith false, free_request, by decide +kernel, ?_⟩
  rw [verify_isOk_iff (authentic_request false (some []))]
  rintro ⟨hpresentable, -⟩
  obtain ⟨key, signature, -, hsized, -⟩ := hpresentable.proven proofKey [] rfl rfl
  cases hsized

end OnionRoute.AuthTokens
