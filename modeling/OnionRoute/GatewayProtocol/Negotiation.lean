import OnionRoute.GatewayProtocol.FlowOutcomes

/-! Version and capability negotiation, and the transcript binding. SHA-256 is a parameter. -/

namespace OnionRoute.GatewayProtocol

open Library

abbrev Block (n : ℕ) := {bytes : Bytes // bytes.length = n}

def selectVersion (client server : ProtocolVersionRange) : Result ProtocolVersion := do
  let (clientMajor, clientMin, clientMax) ← validateVersionRange client
  let (serverMajor, serverMin, serverMax) ← validateVersionRange server
  if clientMajor ≠ serverMajor then throw .incompatibleVersion
  let minimum := max clientMin serverMin
  let maximum := min clientMax serverMax
  if minimum > maximum then throw .incompatibleVersion
  pure ⟨clientMajor, maximum⟩

def verifyServerSelection (client server : ProtocolVersionRange) (selected : ProtocolVersion) :
    Result Unit := do
  let expected ← selectVersion client server
  if expected ≠ selected then throw .silentDowngrade

def stripRequired (value : String) : Option String :=
  (value.toList.dropPrefix? "required:".toList).map String.ofList

def requestedName (value : String) : String :=
  (stripRequired value).getD value

def negotiateEach (serverSupported : Finset String) :
    List String → Finset String → List String → Result (List String)
  | [], _, enabled => pure enabled
  | requested :: rest, names, enabled =>
    let name := requestedName requested
    if name ∈ names then throw (.invalidField "duplicate_capability")
    else if name ∈ serverSupported then
      negotiateEach serverSupported rest (insert name names) (enabled ++ [name])
    else if (stripRequired requested).isSome then throw .incompatibleVersion
    else negotiateEach serverSupported rest (insert name names) enabled

def negotiateCapabilities (requested : List String) (serverSupported : Finset String) :
    Result (List String) := do
  validateCapabilities requested
  negotiateEach serverSupported requested ∅ []

def checkRequired (enabled : List String) (requested : String) : Result Unit :=
  match stripRequired requested with
  | some required => if required ∉ enabled then throw .incompatibleVersion else pure ()
  | none => pure ()

def verifyEnabledCapabilities (requested enabled : List String) : Result Unit := do
  validateCapabilities requested
  validateCapabilities enabled
  if ¬ enabled.Nodup ∨ ∃ name ∈ enabled, name ∉ requested.map requestedName then
    throw (.protocolViolation "server enabled an unrequested capability")
  for value in requested do
    checkRequired enabled value

def authBindingDomain : Bytes :=
  "onionroute-gateway-auth-v1\x00".toList.map fun c => UInt8.ofNat c.toNat

def bindingTranscript (clientNonce serverNonce ephemeralSessionId : Bytes)
    (selectedVersion : ProtocolVersion) : Bytes :=
  authBindingDomain ++ clientNonce ++ serverNonce ++ ephemeralSessionId ++
    beBytes32 selectedVersion.major ++ beBytes32 selectedVersion.minor

def sessionNonceBinding (sha256 : Bytes → Block 32)
    (clientNonce serverNonce ephemeralSessionId : Bytes) (selectedVersion : ProtocolVersion) :
    Result (Block 32) := do
  exactLength clientNonce 32 "client_nonce"
  exactLength serverNonce 32 "server_nonce"
  exactLength ephemeralSessionId 16 "ephemeral_session_id"
  require (selectedVersion.major ≠ 0) "selected_version"
  pure (sha256 (bindingTranscript clientNonce serverNonce ephemeralSessionId selectedVersion))

structure Overlap (client server : ProtocolVersionRange) (version : ProtocolVersion) : Prop where
  clientValid : ∃ minor, client.minimum = some ⟨version.major, minor⟩ ∧ minor ≤ version.minor
  serverValid : ∃ minor, server.minimum = some ⟨version.major, minor⟩ ∧ minor ≤ version.minor
  major : version.major ≠ 0
  highest : ∃ clientMax serverMax, client.maximum = some ⟨version.major, clientMax⟩ ∧
    server.maximum = some ⟨version.major, serverMax⟩ ∧ version.minor = min clientMax serverMax

lemma validateVersionRange_eq_ok {range : ProtocolVersionRange} {major low high : UInt32} :
    validateVersionRange range = .ok (major, low, high) ↔
      range.minimum = some ⟨major, low⟩ ∧ range.maximum = some ⟨major, high⟩ ∧
        major ≠ 0 ∧ low ≤ high := by
  obtain ⟨minimum, maximum⟩ := range
  rcases minimum with _ | ⟨lowMajor, lowMinor⟩
  · simp [validateVersionRange, throw_eq_ok]
  rcases maximum with _ | ⟨highMajor, highMinor⟩
  · simp [validateVersionRange, throw_eq_ok]
  simp only [validateVersionRange, ite_throw_eq_ok, Prod.mk.injEq, not_or, not_not,
    Option.some.injEq, ProtocolVersion.mk.injEq, gt_iff_lt, UInt32.not_lt]
  constructor
  · rintro ⟨⟨hzero, rfl, hle⟩, rfl, rfl, rfl⟩
    exact ⟨⟨rfl, rfl⟩, ⟨rfl, rfl⟩, hzero, hle⟩
  · rintro ⟨⟨rfl, rfl⟩, ⟨rfl, rfl⟩, hzero, hle⟩
    exact ⟨⟨hzero, rfl, hle⟩, rfl, rfl, rfl⟩

variable {server client : ProtocolVersionRange} {version : ProtocolVersion}

lemma selectVersion_eq_ok :
    selectVersion client server = .ok version ↔ Overlap client server version := by
  simp only [selectVersion, bind_eq_ok, guard_eq_ok, pure_eq_ok, Prod.exists,
    validateVersionRange_eq_ok, not_not]
  constructor
  · rintro ⟨major, cmin, cmax, ⟨hcmin, hcmax, hmajor, hc⟩, _, smin, smax,
      ⟨hsmin, hsmax, -, hs⟩, rfl, hle, rfl⟩
    rw [gt_iff_lt, UInt32.lt_iff_toNat_lt, toNat_min, toNat_max] at hle
    refine ⟨⟨cmin, hcmin, ?_⟩, ⟨smin, hsmin, ?_⟩, hmajor, cmax, smax, hcmax, hsmax, rfl⟩
    · rw [UInt32.le_iff_toNat_le, toNat_min]
      omega
    · rw [UInt32.le_iff_toNat_le, toNat_min]
      omega
  · rintro ⟨⟨cmin, hcmin, hc⟩, ⟨smin, hsmin, hs⟩, hmajor, cmax, smax, hcmax, hsmax, hminor⟩
    obtain ⟨major, minor⟩ := version
    subst hminor
    rw [UInt32.le_iff_toNat_le, toNat_min] at hc hs
    refine ⟨major, cmin, cmax, ⟨hcmin, hcmax, hmajor, ?_⟩,
      major, smin, smax, ⟨hsmin, hsmax, hmajor, ?_⟩, rfl, ?_, rfl⟩
    · rw [UInt32.le_iff_toNat_le]
      omega
    · rw [UInt32.le_iff_toNat_le]
      omega
    · rw [gt_iff_lt, UInt32.lt_iff_toNat_lt, toNat_min, toNat_max]
      omega

lemma Overlap.unique {v w : ProtocolVersion}
    (hv : Overlap client server v) (hw : Overlap client server w) : v = w := by
  rw [← selectVersion_eq_ok] at hv hw
  exact Except.ok.inj (hv.symm.trans hw)

lemma verifyServerSelection_eq_ok {selected : ProtocolVersion} {u : Unit} :
    verifyServerSelection client server selected = .ok u ↔ Overlap client server selected := by
  simp only [verifyServerSelection, bind_eq_ok, ite_throw_eq_ok, not_not, and_true,
    selectVersion_eq_ok, exists_eq_right]

variable {requested : List String} {serverSupported : Finset String} {enabled result : List String}

lemma negotiateEach_eq_ok {names : Finset String} :
    negotiateEach serverSupported requested names enabled = .ok result ↔
      ((requested.map requestedName).Nodup ∧ ∀ value ∈ requested, requestedName value ∉ names) ∧
      (∀ value ∈ requested, ∀ name, stripRequired value = some name → name ∈ serverSupported) ∧
      result = enabled ++ (requested.map requestedName).filter (· ∈ serverSupported) := by
  induction requested generalizing names enabled with
  | nil => simp [negotiateEach, pure_eq_ok, eq_comm (a := result)]
  | cons value rest ih =>
    have hstrip : ∀ name, stripRequired value = some name → requestedName value = name := by
      intro name h
      rw [requestedName, h, Option.getD_some]
    rw [negotiateEach]
    by_cases hmem : requestedName value ∈ names
    · simp [hmem, throw_eq_ok]
    have hfresh : ((rest.map requestedName).Nodup ∧
          ∀ v ∈ rest, requestedName v ∉ insert (requestedName value) names) ↔
        ((value :: rest).map requestedName).Nodup ∧
          ∀ v ∈ value :: rest, requestedName v ∉ names := by
      simp only [Finset.mem_insert, not_or, List.map_cons, List.nodup_cons, List.mem_map, not_exists,
        not_and, List.forall_mem_cons, hmem, not_false_eq_true, true_and]
      constructor
      · rintro ⟨hnodup, hrest⟩
        exact ⟨⟨fun v hv => (hrest v hv).1, hnodup⟩, fun v hv => (hrest v hv).2⟩
      · rintro ⟨⟨hne, hnodup⟩, hrest⟩
        exact ⟨hnodup, fun v hv => ⟨hne v hv, hrest v hv⟩⟩
    have hcons (hvalue : ∀ name, stripRequired value = some name → name ∈ serverSupported) :
        (∀ v ∈ value :: rest, ∀ name, stripRequired v = some name → name ∈ serverSupported) ↔
          ∀ v ∈ rest, ∀ name, stripRequired v = some name → name ∈ serverSupported := by
      rw [List.forall_mem_cons, and_iff_right hvalue]
    simp only [if_neg hmem]
    by_cases hsupported : requestedName value ∈ serverSupported
    · have hvalue : ∀ name, stripRequired value = some name → name ∈ serverSupported := by
        intro name h
        rw [← hstrip name h]
        exact hsupported
      rw [if_pos hsupported, ih, hfresh, hcons hvalue, List.map_cons,
        List.filter_cons_of_pos (by simpa using hsupported), List.append_assoc, List.singleton_append]
    · rw [if_neg hsupported]
      cases hrequired : stripRequired value with
      | some name =>
        have hname : name ∉ serverSupported := by
          rw [← hstrip name hrequired]
          exact hsupported
        simp [throw_eq_ok, hrequired, hname]
      | none =>
        have hvalue : ∀ name, stripRequired value = some name → name ∈ serverSupported := by
          intro name h
          rw [hrequired] at h
          cases h
        rw [Option.isSome_none, if_neg Bool.false_ne_true, ih, hfresh, hcons hvalue, List.map_cons,
          List.filter_cons_of_neg (by simpa using hsupported)]

lemma negotiateCapabilities_eq_ok :
    negotiateCapabilities requested serverSupported = .ok result ↔
      validateCapabilities requested = .ok () ∧ (requested.map requestedName).Nodup ∧
      (∀ value ∈ requested, ∀ name, stripRequired value = some name → name ∈ serverSupported) ∧
      result = (requested.map requestedName).filter (· ∈ serverSupported) := by
  simp only [negotiateCapabilities, bind_eq_ok, negotiateEach_eq_ok, Finset.notMem_empty,
    not_false_eq_true, implies_true, and_true, List.nil_append, Unique.exists_iff, PUnit.default_eq_unit]

lemma verifyEnabledCapabilities_eq_ok {u : Unit} :
    verifyEnabledCapabilities requested enabled = .ok u ↔
      validateCapabilities requested = .ok () ∧ validateCapabilities enabled = .ok () ∧
      (enabled.Nodup ∧ ∀ name ∈ enabled, name ∈ requested.map requestedName) ∧
      ∀ value ∈ requested, ∀ name, stripRequired value = some name → name ∈ enabled := by
  have hcheck : ∀ value, checkRequired enabled value = .ok () ↔
      ∀ name, stripRequired value = some name → name ∈ enabled := by
    intro value
    rw [checkRequired]
    cases stripRequired value with
    | some name =>
      rw [ite_throw_eq_ok]
      simp
    | none => simp [pure_eq_ok]
  simp only [verifyEnabledCapabilities, bind_eq_ok, guard_eq_ok, forIn_eq_ok, hcheck,
    Unique.exists_iff, PUnit.default_eq_unit, pure_eq_ok, not_or, not_not, not_exists, not_and,
    and_true]

lemma sessionNonceBinding_eq_ok {sha256 : Bytes → Block 32} {clientNonce serverNonce id : Bytes}
    {digest : Block 32} :
    sessionNonceBinding sha256 clientNonce serverNonce id version = .ok digest ↔
      clientNonce.length = 32 ∧ serverNonce.length = 32 ∧ id.length = 16 ∧ version.major ≠ 0 ∧
      sha256 (bindingTranscript clientNonce serverNonce id version) = digest := by
  simp only [sessionNonceBinding, bind_eq_ok, exactLength, require_eq_ok, pure_eq_ok, exists_const]

end OnionRoute.GatewayProtocol
