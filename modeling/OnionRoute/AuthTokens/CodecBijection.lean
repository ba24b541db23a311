import OnionRoute.AuthTokens.Codec

/-! Tokens and their accepted encodings determine each other. -/

namespace OnionRoute.AuthTokens

open Library
open GatewayProtocol

variable {value : Int32}

section Fields

lemma enumFromWire_eq_ok {α : Type} {members : List (Int32 × α)} {toWire : α → Int32}
    (hmembers : ∀ m ∈ members, toWire m.2 = m.1)
    (hall : ∀ a, enumFromWire members (toWire a) = .ok a) {a : α} :
    enumFromWire members value = .ok a ↔ toWire a = value := by
  constructor
  · intro h
    rw [enumFromWire] at h
    cases hlookup : members.lookup value with
    | none => simp [hlookup] at h
    | some b =>
      rw [hlookup] at h
      obtain rfl : b = a := by simpa using h
      obtain ⟨before, after, hsplit, -⟩ := List.lookup_eq_some_iff.mp hlookup
      exact hmembers (value, b) (by simp [hsplit])
  · rintro rfl
    exact hall a

lemma planFromWire_eq_ok {plan : PlanClass} :
    planFromWire value = .ok plan ↔ planToWire plan = value :=
  enumFromWire_eq_ok (by simp [planToWire]) (by rintro (_ | _ | _) <;> rfl)

lemma roleFromWire_eq_ok {role : GatewayRole} :
    roleFromWire value = .ok role ↔ roleToWire role = value :=
  enumFromWire_eq_ok (by simp [roleToWire]) (by rintro (_ | _ | _) <;> rfl)

lemma regionFromWire_eq_ok {region : RegionSet} :
    regionFromWire value = .ok region ↔ regionToWire region = value :=
  enumFromWire_eq_ok (by simp [regionToWire]) (by rintro (_ | _ | _ | _) <;> rfl)

lemma deviceFromWire_eq_ok {device : DeviceSlotClass} :
    deviceFromWire value = .ok device ↔ deviceToWire device = value :=
  enumFromWire_eq_ok (by simp [deviceToWire]) (by rintro (_ | _ | _) <;> rfl)

lemma bandwidthFromWire_eq_ok {bandwidth : BandwidthClass} :
    bandwidthFromWire value = .ok bandwidth ↔ bandwidthToWire bandwidth = value :=
  enumFromWire_eq_ok (by simp [bandwidthToWire]) (by rintro (_ | _ | _) <;> rfl)

lemma narrow_eq_ok {e : TokenError} {value : UInt32} {n : UInt16} :
    narrow e value = .ok n ↔ n.toUInt32 = value := by
  rw [narrow]
  constructor
  · intro h
    split at h
    next hlt =>
      obtain rfl : value.toUInt16 = n := by simpa using h
      apply UInt32.toNat_inj.mp
      simp only [UInt16.toNat_toUInt32, UInt32.toNat_toUInt16]
      omega
    next => simp at h
  · rintro rfl
    have hlt := n.toNat_lt
    rw [if_pos (by simpa using hlt), UInt16.toUInt16_toUInt32]

lemma sized_eq_ok {n : ℕ} {bytes : Bytes} {v : Vector UInt8 n} :
    sized n bytes = .ok v ↔ v.toList = bytes := by
  rw [sized]
  constructor
  · intro h
    split at h
    next hlen =>
      obtain rfl := Except.ok.inj h
      simp [Vector.toList]
    next => simp at h
  · rintro rfl
    rw [dif_pos v.length_toList]
    simp [Vector.toList]

lemma present_eq_ok {α : Type} {o : Option α} {a : α} : present o = .ok a ↔ o = some a := by
  cases o <;> simp [present]

lemma popKeyFromWire_eq_ok {o : Option Bytes} {key : Option (Vector UInt8 32)} :
    popKeyFromWire o = .ok key ↔ key.map Vector.toList = o := by
  cases o with
  | none => cases key <;> simp [popKeyFromWire]
  | some bytes =>
    simp only [popKeyFromWire, bind_eq_ok, pure_eq_ok, sized_eq_ok]
    cases key <;> simp

lemma mapM_eq_ok {ε α β : Type} {f : α → Except ε β} {g : β → α}
    (h : ∀ {a b}, f a = .ok b ↔ g b = a) {as : List α} {bs : List β} :
    as.mapM f = .ok bs ↔ bs.map g = as := by
  induction as generalizing bs with
  | nil => cases bs <;> simp [pure_eq_ok]
  | cons a as ih =>
    simp only [List.mapM_cons, bind_eq_ok, pure_eq_ok, h, ih]
    cases bs <;> simp

end Fields

lemma claimsFromWire_eq_ok {wire : CapabilityClaimsV1} {claims : CapabilityClaims} :
    claimsFromWire wire = .ok claims ↔ claimsToWire claims = wire := by
  simp only [claimsFromWire, bind_eq_ok, pure_eq_ok, narrow_eq_ok, sized_eq_ok, present_eq_ok,
    mapM_eq_ok roleFromWire_eq_ok, popKeyFromWire_eq_ok, planFromWire_eq_ok, regionFromWire_eq_ok,
    deviceFromWire_eq_ok, bandwidthFromWire_eq_ok]
  constructor
  · rintro ⟨version, hversion, id, hid, roles, hroles, limits, hlimits, sessions, hsessions,
      streams, hstreams, connections, hconnections, key, hkey, plan, hplan, region, hregion, device,
      hdevice, bandwidth, hbandwidth, rfl⟩
    cases wire
    cases limits
    simp only at *
    subst_vars
    rfl
  · rintro rfl
    exact ⟨_, rfl, _, rfl, _, rfl, _, rfl, _, rfl, _, rfl, _, rfl, _, rfl, _, rfl, _, rfl, _, rfl,
      _, rfl, rfl⟩

variable {encoded : Bytes}

lemma encodeToken_eq_ok {claims : CapabilityClaims} {signature : Vector UInt8 64} :
    encodeToken claims signature = .ok encoded ↔ claims.validateShape = .ok () ∧
      encoded.length ≤ maxTokenBytes ∧ (envelopeOf claims signature).encode = encoded := by
  simp only [encodeToken, bind_eq_ok, guard_eq_ok, pure_eq_ok, not_lt]
  constructor
  · rintro ⟨_, hshape, hlen, rfl⟩
    exact ⟨hshape, hlen, rfl⟩
  · rintro ⟨hshape, hlen, rfl⟩
    exact ⟨(), hshape, hlen, rfl⟩

structure Accepted (prost : Prost) (encoded : Bytes) (token : DecodedToken)
    (envelope : SignedTokenEnvelopeV1) (wire : CapabilityClaimsV1) : Prop where
  length : encoded.length ≤ maxTokenBytes
  decodesEnvelope : prost.decodeEnvelope encoded = some envelope
  version : envelope.tokenVersion = tokenVersionV1.toUInt32
  canonical : envelope.encode = encoded
  claimsLength : envelope.claims.length ≤ maxTokenBytes
  decodesClaims : prost.decodeClaims envelope.claims = some wire
  claimsCanonical : wire.encode = envelope.claims
  fromWire : claimsToWire token.claims = wire
  shape : token.claims.validateShape = .ok ()
  signature : token.signature.toList = envelope.signature
  claimsBytes : token.claimsBytes = envelope.claims

lemma decodeToken_eq_ok {prost : Prost} {token : DecodedToken} :
    decodeToken prost encoded = .ok token ↔
      ∃ envelope wire, Accepted prost encoded token envelope wire := by
  simp only [decodeToken, bind_eq_ok, guard_eq_ok, pure_eq_ok, present_eq_ok, sized_eq_ok,
    claimsFromWire_eq_ok, not_lt, ne_eq, not_not]
  constructor
  · rintro ⟨hlen, envelope, hdecode, hversion, hcanonical, hclaims, wire, hwire, hsame, claims,
      hfrom, _, hshape, signature, hsignature, rfl⟩
    exact ⟨envelope, wire, hlen, hdecode, hversion, hcanonical, hclaims, hwire, hsame, hfrom,
      hshape, hsignature, rfl⟩
  · rintro ⟨envelope, wire, h⟩
    obtain ⟨claims, claimsBytes, signature⟩ := token
    obtain rfl := h.claimsBytes
    exact ⟨h.length, envelope, h.decodesEnvelope, h.version, h.canonical, h.claimsLength, wire,
      h.decodesClaims, h.claimsCanonical, claims, h.fromWire, (), h.shape, signature, h.signature, rfl⟩

lemma length_claims_le (envelope : SignedTokenEnvelopeV1) :
    envelope.claims.length ≤ envelope.encode.length := by
  have hfield : envelope.claims.length ≤ (bytesField 2 envelope.claims).length := by
    rw [bytesField]
    split
    next h => simp [h]
    next =>
      rw [delimited, List.length_append]
      omega
  simp only [SignedTokenEnvelopeV1.encode, List.length_append]
  omega

structure Prost.ReadsBack (prost : Prost) (claims : CapabilityClaims)
    (signature : Vector UInt8 64) : Prop where
  decodesEnvelope : prost.decodeEnvelope (envelopeOf claims signature).encode =
    some (envelopeOf claims signature)
  decodesClaims : prost.decodeClaims (claimsToWire claims).encode = some (claimsToWire claims)

lemma decodeToken_encodeToken {prost : Prost} {claims : CapabilityClaims}
    {signature : Vector UInt8 64} (hreads : prost.ReadsBack claims signature)
    (h : encodeToken claims signature = .ok encoded) :
    decodeToken prost encoded = .ok ⟨claims, (claimsToWire claims).encode, signature⟩ := by
  obtain ⟨hshape, hlen, rfl⟩ := encodeToken_eq_ok.mp h
  refine decodeToken_eq_ok.mpr ⟨envelopeOf claims signature, claimsToWire claims, ?_⟩
  exact
    { length := hlen
      decodesEnvelope := hreads.decodesEnvelope
      version := rfl
      canonical := rfl
      claimsLength := (length_claims_le _).trans hlen
      decodesClaims := hreads.decodesClaims
      claimsCanonical := rfl
      fromWire := rfl
      shape := hshape
      signature := rfl
      claimsBytes := rfl }

lemma encodeToken_decodeToken {prost : Prost} {token : DecodedToken}
    (h : decodeToken prost encoded = .ok token) :
    encodeToken token.claims token.signature = .ok encoded ∧
      token.claimsBytes = (claimsToWire token.claims).encode := by
  obtain ⟨envelope, wire, h⟩ := decodeToken_eq_ok.mp h
  have hclaims : (claimsToWire token.claims).encode = envelope.claims := by
    rw [h.fromWire, h.claimsCanonical]
  -- the envelope is the one that the encoder builds
  have henvelope : envelopeOf token.claims token.signature = envelope := by
    obtain ⟨version, claims, signature⟩ := envelope
    rw [envelopeOf, hclaims, h.signature, ← h.version]
  constructor
  · refine encodeToken_eq_ok.mpr ⟨h.shape, h.length, ?_⟩
    rw [henvelope, h.canonical]
  · rw [h.claimsBytes, hclaims]

/-- Every token that is encoded is read back, every encoding that is read is the one written for
the token read from it, and so no token has two encodings that are read. -/
theorem token_codec (prost : Prost) :
    (∀ claims signature encoded, encodeToken claims signature = .ok encoded →
      prost.ReadsBack claims signature →
      decodeToken prost encoded = .ok ⟨claims, (claimsToWire claims).encode, signature⟩) ∧
    (∀ encoded token, decodeToken prost encoded = .ok token →
      encodeToken token.claims token.signature = .ok encoded) ∧
    ∀ encoded encoded' token token', decodeToken prost encoded = .ok token →
      decodeToken prost encoded' = .ok token' → token.claims = token'.claims →
      token.signature = token'.signature → encoded = encoded' := by
  refine ⟨fun claims signature encoded h hreads => decodeToken_encodeToken hreads h,
    fun encoded token h => (encodeToken_decodeToken h).1, ?_⟩
  intro encoded encoded' token token' h h' hclaims hsignature
  have hencoded := (encodeToken_decodeToken h).1
  rw [hclaims, hsignature, (encodeToken_decodeToken h').1] at hencoded
  exact (Except.ok.inj hencoded).symm

namespace Sample

def proofKey : Vector UInt8 32 := Vector.replicate 32 1

def claims : CapabilityClaims where
  tokenVersion := 1
  tokenId := ⟨Vector.replicate 32 0x17⟩
  policy := ⟨.plus, [.entry], .europe, .personal, .fast, ⟨4, 128, 240⟩⟩
  notBefore := 1767225600
  expiresAt := 1767226500
  issuerKeyId := "issuer-2026"
  proofOfPossessionPublicKey := some proofKey

def signature : Vector UInt8 64 := Vector.replicate 64 2

def prost : Prost where
  decodeEnvelope bytes :=
    if bytes = (envelopeOf claims signature).encode then some (envelopeOf claims signature)
    else none
  decodeClaims bytes :=
    if bytes = (claimsToWire claims).encode then some (claimsToWire claims) else none

lemma readsBack : prost.ReadsBack claims signature :=
  ⟨if_pos rfl, if_pos rfl⟩

lemma encodeToken_claims : ∃ encoded, encodeToken claims signature = .ok encoded :=
  ⟨(envelopeOf claims signature).encode, by decide +kernel⟩

end Sample

open Sample in
theorem token_codec_plus : ∃ encoded token, token.claims = claims ∧
    encodeToken claims signature = .ok encoded ∧
    decodeToken prost encoded = .ok token ∧
    encodeToken token.claims token.signature = .ok encoded ∧
    ∀ encoded', decodeToken prost encoded' = .ok token → encoded' = encoded := by
  obtain ⟨encoded, hencode⟩ := encodeToken_claims
  obtain ⟨hread, hwrite, hunique⟩ := token_codec prost
  have hdecode := hread _ _ _ hencode readsBack
  exact ⟨encoded, _, rfl, hencode, hdecode, hwrite _ _ hdecode,
    fun encoded' h => hunique _ _ _ _ h hdecode rfl rfl⟩

end OnionRoute.AuthTokens
