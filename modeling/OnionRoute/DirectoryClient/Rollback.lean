import OnionRoute.DirectoryClient.Verification
import OnionRoute.Library.Trace

/-! A client that verifies one directory after another and remembers the last one. -/

namespace OnionRoute.DirectoryClient

open Library

lemma checkDistinct_eq_ok {α : Type} {valid : α → Bool} {name : α → String} {xs : List α}
    {seen : Finset String} (h : checkDistinct valid name xs seen = .ok ()) :
    (∀ x ∈ xs, valid x = true) ∧ (xs.map name).Nodup ∧ ∀ x ∈ xs, name x ∉ seen := by
  induction xs generalizing seen with
  | nil => simp
  | cons x rest ih =>
    rw [checkDistinct] at h
    split_ifs at h with hbad
    obtain ⟨hvalid, hnew⟩ := not_or.mp hbad
    obtain ⟨hall, hnodup, hfresh⟩ := ih h
    refine ⟨?_, List.nodup_cons.mpr ⟨?_, hnodup⟩, ?_⟩
    · intro y hy
      rcases List.mem_cons.mp hy with rfl | hy
      · simpa using hvalid
      · exact hall y hy
    · intro hmem
      obtain ⟨y, hy, heq⟩ := List.mem_map.mp hmem
      exact hfresh y hy (heq ▸ Finset.mem_insert_self _ _)
    · intro y hy
      rcases List.mem_cons.mp hy with rfl | hy
      · exact hnew
      · exact fun hseen => hfresh y hy (Finset.mem_insert_of_mem hseen)

lemma filter_eq_singleton {α : Type} {name : α → String} {n : String} {xs : List α} {x : α}
    (hnodup : (xs.map name).Nodup) (hfind : xs.find? (fun y => name y = n) = some x) :
    xs.filter (fun y => name y = n) = [x] := by
  induction xs with
  | nil => cases hfind
  | cons y rest ih =>
    obtain ⟨hnew, hnodup⟩ := List.nodup_cons.mp hnodup
    by_cases hy : name y = n
    · rw [List.find?_cons_of_pos (by simpa using hy)] at hfind
      obtain rfl := Option.some.inj hfind
      rw [List.filter_cons_of_pos (by simpa using hy), List.filter_eq_nil_iff.mpr]
      intro z hz hzn
      refine hnew (List.mem_map.mpr ⟨z, hz, ?_⟩)
      rw [hy]
      simpa using hzn
    · rw [List.find?_cons_of_neg (by simpa using hy)] at hfind
      rw [List.filter_cons_of_neg (by simpa using hy)]
      exact ih hnodup hfind

variable (ext : Externals)

lemma orError_eq_ok {α : Type} {e : VerificationError} {o : Option α} {a : α} :
    Externals.orError e o = .ok a ↔ o = some a := by
  cases o <;> simp [Externals.orError]

def SignedBy (key : Vector UInt8 32) (message : Bytes) (signature : String) : Prop :=
  ∃ verifier bytes, ext.verifyingKey key = some verifier ∧
    ext.decodeArray 64 signature = .ok bytes ∧ ext.verifies verifier message bytes = true

/-- The signing key is listed once in a bundle signed by a pinned root, not revoked, and valid now.
-/
structure Authentic (bytes : Bytes) (context : VerificationContext) (result : VerifiedDirectory)
    (payload : Bytes) (envelope : SignedDirectory) (certificate : SigningKeyCertificate) :
    Prop where
  decoded : ext.decodeEnvelope bytes = some envelope
  root : ∃ rootKey canonical,
    context.pinnedRootKeys.lookup envelope.trustBundle.bundle.rootKeyId = some rootKey ∧
      ext.canonicalBundle envelope.trustBundle.bundle = some canonical ∧
      SignedBy ext rootKey (domainMessage trustBundleSignatureDomain canonical)
        envelope.trustBundle.signature
  listed : (envelope.trustBundle.bundle.signingKeys.filter
    fun key => key.keyId = envelope.signingKeyId) = [certificate]
  notRevoked : envelope.signingKeyId ∉ envelope.trustBundle.bundle.revokedSigningKeyIds
  valid : certificate.validFrom ≤ context.now ∧ context.now < certificate.validUntil
  encoded : ext.base64 envelope.payload = some payload
  signed : ∃ key, ext.decodeArray 32 certificate.publicKey = .ok key ∧
    SignedBy ext key (domainMessage directorySignatureDomain payload) envelope.signature
  document : ext.decodeDocument payload = some result.document
  digest : result.payloadSha256 = ext.sha256 payload
  bundleVersion : result.trustBundleVersion = envelope.trustBundle.bundle.bundleVersion
  keyId : result.signingKeyId = certificate.keyId

variable {ext} {bytes : Bytes} {context : VerificationContext} {result : VerifiedDirectory}

lemma verifyTrustBundle_eq_ok {envelope : SignedDirectory}
    (h : ext.verifyTrustBundle envelope context = .ok ()) :
    (∃ rootKey canonical,
      context.pinnedRootKeys.lookup envelope.trustBundle.bundle.rootKeyId = some rootKey ∧
        ext.canonicalBundle envelope.trustBundle.bundle = some canonical ∧
        SignedBy ext rootKey (domainMessage trustBundleSignatureDomain canonical)
          envelope.trustBundle.signature) ∧
      (envelope.trustBundle.bundle.signingKeys.map SigningKeyCertificate.keyId).Nodup ∧
      ∀ highest ∈ context.highestTrustBundleVersion,
        highest ≤ envelope.trustBundle.bundle.bundleVersion := by
  simp only [Externals.verifyTrustBundle, Externals.validateTrustBundle, bind_eq_ok, guard_eq_ok,
    orError_eq_ok, ite_throw_eq_ok, not_not] at h
  obtain ⟨-, _, ⟨-, hrollback, _, hkeys, -⟩, rootKey, hroot, verifier, hverifier, canonical,
    hcanonical, signature, hsignature, hverifies, -⟩ := h
  refine ⟨⟨rootKey, canonical, hroot, hcanonical, verifier, signature, hverifier, hsignature,
    hverifies⟩, (checkDistinct_eq_ok hkeys).2.1, fun highest hmem => ?_⟩
  exact UInt64.not_lt.mp fun hlt => hrollback ⟨highest, hmem, hlt⟩

lemma verifyDirectory_eq_ok (h : ext.verifyDirectory bytes context = .ok result) :
    (∃ payload envelope certificate,
      Authentic ext bytes context result payload envelope certificate) ∧
      (∀ previous ∈ context.persistedDirectory, previous.version ≤ result.document.version ∧
        (result.document.version = previous.version →
          result.payloadSha256 = previous.payloadSha256)) ∧
      ∀ highest ∈ context.highestTrustBundleVersion, highest ≤ result.trustBundleVersion := by
  simp only [Externals.verifyDirectory, bind_eq_ok, guard_eq_ok, orError_eq_ok, pure_eq_ok, not_not,
    not_or] at h
  obtain ⟨-, -, envelope, henvelope, -, _, hbundle, certificate, hfind, ⟨-, hfrom, huntil, hrevoked⟩,
    key, hkey, verifier, hverifier, payload, hpayload, -, signature, hsignature, hverifies, document,
    hdocument, canonical, hcanonical, -, _, hsemantics, hpersisted, rfl⟩ := h
  obtain ⟨hroot, hnodup, hhighest⟩ := verifyTrustBundle_eq_ok hbundle
  have hkeyId : certificate.keyId = envelope.signingKeyId := by
    simpa using List.find?_some hfind
  refine ⟨⟨payload, envelope, certificate, ?_⟩, fun previous hmem => ?_, hhighest⟩
  · exact {
      decoded := henvelope
      root := hroot
      listed := filter_eq_singleton hnodup hfind
      notRevoked := hrevoked
      valid := ⟨not_lt.mp hfrom, not_le.mp huntil⟩
      encoded := hpayload
      signed := ⟨key, hkey, verifier, signature, hverifier, hsignature, hverifies⟩
      document := hdocument
      digest := rfl
      bundleVersion := rfl
      keyId := hkeyId.symm }
  · refine ⟨UInt64.not_lt.mp fun hlt => hpersisted ⟨previous, hmem, .inl hlt⟩, fun heq => ?_⟩
    by_contra hne
    exact hpersisted ⟨previous, hmem, .inr ⟨heq, hne⟩⟩

structure Call where
  bytes : Bytes
  now : ℤ
  maxFutureClockSkew : ℤ
  pinnedRootKeys : Table String (Vector UInt8 32)

structure Persisted where
  directory : Option PersistedDirectoryState
  bundleVersion : Option UInt64

def Persisted.contextFor (p : Persisted) (call : Call) : VerificationContext :=
  ⟨call.now, call.maxFutureClockSkew, call.pinnedRootKeys, p.bundleVersion, p.directory⟩

def Persisted.after (p : Persisted) : Except VerificationError VerifiedDirectory → Persisted
  | .error _ => p
  | .ok result => ⟨some ⟨result.document.version, result.payloadSha256⟩, some result.trustBundleVersion⟩

structure Event where
  before : Persisted
  call : Call
  outcome : Except VerificationError VerifiedDirectory

variable (ext) in
def Step (p : Persisted) (e : Event) (p' : Persisted) : Prop :=
  e.before = p ∧ e.outcome = ext.verifyDirectory e.call.bytes (p.contextFor e.call) ∧
    p' = p.after e.outcome

variable (ext) in
def payloadOf (bytes : Bytes) : Option Bytes := do
  let envelope ← ext.decodeEnvelope bytes
  ext.base64 envelope.payload

structure NotAfter (r r' : VerifiedDirectory) : Prop where
  version : r.document.version ≤ r'.document.version
  bundleVersion : r.trustBundleVersion ≤ r'.trustBundleVersion
  digest : r.document.version = r'.document.version → r.payloadSha256 = r'.payloadSha256

def Covers (p : Persisted) (events : List Event) : Prop :=
  ∀ e ∈ events, ∀ r, e.outcome = .ok r → ∃ d b, p.directory = some d ∧ p.bundleVersion = some b ∧
    r.document.version ≤ d.version ∧ r.trustBundleVersion ≤ b ∧
      (r.document.version = d.version → r.payloadSha256 = d.payloadSha256)

variable {p p' : Persisted} {events : List Event} {e : Event}

lemma Covers.notAfter (h : Covers p events) (hstep : Step ext p e p') {e₀ : Event} (he₀ : e₀ ∈ events)
    {r₀ r : VerifiedDirectory} (h₀ : e₀.outcome = .ok r₀) (hr : e.outcome = .ok r) :
    NotAfter r₀ r := by
  obtain ⟨d, b, hd, hb, hversion, hbundle, hdigest⟩ := h e₀ he₀ r₀ h₀
  obtain ⟨-, hprevious, hhighest⟩ := verifyDirectory_eq_ok (hstep.2.1.symm.trans hr)
  obtain ⟨hle, hsame⟩ := hprevious d hd
  refine ⟨UInt64.le_trans hversion hle, UInt64.le_trans hbundle (hhighest b hb), fun heq => ?_⟩
  have hd₀ : r₀.document.version = d.version := UInt64.le_antisymm hversion (heq ▸ hle)
  rw [hdigest hd₀, hsame (heq ▸ hd₀)]

lemma Covers.step (h : Covers p events) (hstep : Step ext p e p') : Covers p' (events ++ [e]) := by
  intro e₀ he₀ r₀ h₀
  rw [hstep.2.2]
  cases hout : e.outcome with
  | error err =>
    rcases List.mem_append.mp he₀ with hmem | hmem
    · exact h e₀ hmem r₀ h₀
    · rw [List.mem_singleton.mp hmem, hout] at h₀
      cases h₀
  | ok r =>
    refine ⟨_, _, rfl, rfl, ?_⟩
    rcases List.mem_append.mp he₀ with hmem | hmem
    · have hafter := h.notAfter hstep hmem h₀ hout
      exact ⟨hafter.version, hafter.bundleVersion, hafter.digest⟩
    · rw [List.mem_singleton.mp hmem, hout] at h₀
      obtain rfl := Except.ok.inj h₀
      exact ⟨UInt64.le_refl _, UInt64.le_refl _, fun _ => rfl⟩

lemma trace_covers {p₀ : Persisted} (h : Trace (Step ext) p₀ events p) :
    Covers p events ∧ events.Pairwise fun e e' => ∀ r r', e.outcome = .ok r → e'.outcome = .ok r' →
      NotAfter r r' := by
  induction h with
  | nil => exact ⟨fun e he => absurd he List.not_mem_nil, List.Pairwise.nil⟩
  | snoc _ hstep ih =>
    obtain ⟨hcovers, hpairs⟩ := ih
    refine ⟨hcovers.step hstep, List.pairwise_append.mpr ⟨hpairs, List.pairwise_singleton _ _, ?_⟩⟩
    intro e₀ he₀ e he r₀ r h₀ hr
    obtain rfl := List.mem_singleton.mp he
    exact hcovers.notAfter hstep he₀ h₀ hr

lemma trace_accepted {p₀ : Persisted} (h : Trace (Step ext) p₀ events p) (he : e ∈ events)
    (hr : e.outcome = .ok result) : ∃ payload envelope certificate,
      Authentic ext e.call.bytes (e.before.contextFor e.call) result payload envelope certificate := by
  induction h with
  | nil => cases he
  | snoc _ hstep ih =>
    rcases List.mem_append.mp he with hmem | hmem
    · exact ih hmem
    · obtain rfl := List.mem_singleton.mp hmem
      rw [hstep.1]
      exact (verifyDirectory_eq_ok (hstep.2.1.symm.trans hr)).1

lemma Authentic.payloadOf {payload : Bytes} {envelope : SignedDirectory}
    {certificate : SigningKeyCertificate}
    (h : Authentic ext bytes context result payload envelope certificate) :
    payloadOf ext bytes = some payload := by
  rw [DirectoryClient.payloadOf, h.decoded]
  exact h.encoded

theorem rollback_protected {p₀ : Persisted} (h : Trace (Step ext) p₀ events p)
    (hcollision : ∀ e ∈ events, ∀ e' ∈ events, ∀ payload payload',
      payloadOf ext e.call.bytes = some payload → payloadOf ext e'.call.bytes = some payload' →
        ext.sha256 payload = ext.sha256 payload' → payload = payload') :
    (events.Pairwise fun e e' => ∀ r r', e.outcome = .ok r → e'.outcome = .ok r' →
      r.document.version ≤ r'.document.version ∧ r.trustBundleVersion ≤ r'.trustBundleVersion ∧
        (r.document.version = r'.document.version →
          payloadOf ext e.call.bytes = payloadOf ext e'.call.bytes)) ∧
    ∀ e ∈ events, ∀ r, e.outcome = .ok r → ∃ payload envelope certificate,
      payloadOf ext e.call.bytes = some payload ∧
        Authentic ext e.call.bytes (e.before.contextFor e.call) r payload envelope certificate := by
  refine ⟨(trace_covers h).2.imp_of_mem fun {e e'} he he' hpair r r' hr hr' => ?_,
    fun e he r hr => ?_⟩
  · have hafter := hpair r r' hr hr'
    obtain ⟨payload, _, _, hauthentic⟩ := trace_accepted h he hr
    obtain ⟨payload', _, _, hauthentic'⟩ := trace_accepted h he' hr'
    refine ⟨hafter.version, hafter.bundleVersion, fun heq => ?_⟩
    have hdigest := hafter.digest heq
    rw [hauthentic.digest, hauthentic'.digest] at hdigest
    rw [hauthentic.payloadOf, hauthentic'.payloadOf, hcollision e he e' he' payload payload'
      hauthentic.payloadOf hauthentic'.payloadOf hdigest]
  · obtain ⟨payload, envelope, certificate, hauthentic⟩ := trace_accepted h he hr
    exact ⟨payload, envelope, certificate, hauthentic.payloadOf, hauthentic⟩

namespace Sample

def rootKey : Vector UInt8 32 := Vector.replicate 32 1
def onlineKey : Vector UInt8 32 := Vector.replicate 32 2
def rootSignature : Vector UInt8 64 := Vector.replicate 64 3
def onlineSignature : Vector UInt8 64 := Vector.replicate 64 4
def digest : Vector UInt8 32 := Vector.replicate 32 5

def document : DirectoryDocument := ⟨"2.0", 1, 0, 3600, [], [], [], [], []⟩

def payload : Bytes :=
  utf8 "\x7b\"client_version_rules\":[],\"countries\":[],\"expires_at\":3600,\"feature_flags\":[]," ++
    utf8 "\"format_version\":\"2.0\",\"gateways\":[],\"issued_at\":0,\"revocations\":[]," ++
    utf8 "\"version\":1\x7d"

def certificate : SigningKeyCertificate := ⟨"k", "ed25519", "online key", 0, 3600⟩

def bundle : RootTrustBundle := ⟨1, 1, "r", 0, 3600, [certificate], []⟩

def canonicalBundle : Bytes := utf8 "the bundle"

def envelope : SignedDirectory :=
  ⟨1, "k", ⟨bundle, "root signature"⟩, "payload", "online signature"⟩

def envelopeBytes : Bytes := utf8 "the envelope"

def libraries : Externals where
  Key := Vector UInt8 32
  Version := Unit
  decodeEnvelope bytes := if bytes = envelopeBytes then some envelope else none
  decodeDocument bytes := if bytes = payload then some document else none
  canonicalDocument d := if d = document then some payload else none
  canonicalBundle b := if b = bundle then some canonicalBundle else none
  base64 value :=
    if value = certificate.publicKey then some onlineKey.toList
    else if value = envelope.trustBundle.signature then some rootSignature.toList
    else if value = envelope.signature then some onlineSignature.toList
    else if value = envelope.payload then some payload
    else none
  base32 _ := none
  sha256 bytes := if bytes = payload then digest else Vector.replicate 32 0
  sha3 _ := Vector.replicate 32 0
  verifyingKey key := if key = rootKey ∨ key = onlineKey then some key else none
  verifies key message signature :=
    (key = rootKey ∧ message = domainMessage trustBundleSignatureDomain canonicalBundle ∧
      signature = rootSignature) ∨
    (key = onlineKey ∧ message = domainMessage directorySignatureDomain payload ∧
      signature = onlineSignature)
  parseVersion _ := none
  atLeast _ _ := false

def call : Call := ⟨envelopeBytes, 10, 0, (∅ : Table String _).insert "r" rootKey⟩

def verified : VerifiedDirectory := ⟨document, digest, 1, "k"⟩

def fresh : Persisted := ⟨none, none⟩

def known : Persisted := ⟨some ⟨1, digest⟩, some 1⟩

lemma verify_fresh : libraries.verifyDirectory envelopeBytes (fresh.contextFor call) =
    .ok verified := by decide +kernel

lemma verify_known : libraries.verifyDirectory envelopeBytes (known.contextFor call) =
    .ok verified := by decide +kernel

def twice : List Event := [⟨fresh, call, .ok verified⟩, ⟨known, call, .ok verified⟩]

lemma trace_twice : Trace (Step libraries) fresh twice known :=
  Trace.snoc (Trace.single ⟨rfl, verify_fresh.symm, rfl⟩) ⟨rfl, verify_known.symm, rfl⟩

end Sample

open Sample in
theorem rollback_protected_twice : ∃ payload envelope certificate,
    payloadOf libraries envelopeBytes = some payload ∧
      Authentic libraries envelopeBytes (known.contextFor call)
        verified payload envelope certificate := by
  refine (rollback_protected trace_twice ?_).2 ⟨known, call, _⟩ ?_ _ rfl
  · intro e he e' he' payload payload' hpayload hpayload' _
    have hcall : ∀ e ∈ twice, e.call = call := by simp [twice]
    rw [hcall e he] at hpayload
    rw [hcall e' he'] at hpayload'
    exact Option.some.inj (hpayload.symm.trans hpayload')
  · simp [twice]

end OnionRoute.DirectoryClient
