import OnionRoute.GatewayProtocol.StreamLife

/-! How long a valid message can be when it is encoded. -/

namespace OnionRoute.GatewayProtocol

open Library

variable {n k : ℕ}

lemma varintLen_le (hk : 0 < k) (h : n < 2 ^ (7 * k)) : varintLen n ≤ k := by
  rw [varintLen]
  by_cases hn : n = 0
  · subst hn
    exact hk
  · have hlog : n.log2 < 7 * k := (Nat.log2_lt hn).mpr h
    omega

section Fields

variable {tag : ℕ}

lemma keyLen_le_two (htag : tag < 32) : keyLen tag ≤ 2 :=
  varintLen_le (by decide) (by omega)

lemma keyLen_le_one (htag : tag < 16) : keyLen tag ≤ 1 :=
  varintLen_le (by decide) (by omega)

lemma uintLen_le (htag : tag < 16) (hk : 0 < k) (h : n < 2 ^ (7 * k)) : uintLen tag n ≤ 1 + k := by
  have hkey := keyLen_le_one htag
  have hlen := varintLen_le hk h
  rw [uintLen]
  split <;> omega

lemma uint32Len_le (tag : ℕ) (value : UInt32) (htag : tag < 16 := by decide) :
    uintLen tag value.toNat ≤ 6 := by
  have hlt := value.toNat_lt
  exact uintLen_le (k := 5) htag (by decide) (by omega)

lemma uint64Len_le (tag : ℕ) (value : UInt64) (htag : tag < 16 := by decide) :
    uintLen tag value.toNat ≤ 11 := by
  have hlt := value.toNat_lt
  exact uintLen_le (k := 10) htag (by decide) (by omega)

lemma int32Len_le (tag : ℕ) (value : Int32) (htag : tag < 16 := by decide) :
    int32Len tag value ≤ 11 :=
  uint64Len_le tag _ htag

lemma boolLen_le (tag : ℕ) (value : Bool) (htag : tag < 16 := by decide) : boolLen tag value ≤ 2 := by
  refine uintLen_le (k := 1) htag Nat.one_pos ?_
  cases value <;> decide

lemma delimitedLen_le {length : ℕ} (htag : tag < 16) (hk : 0 < k) (h : length < 2 ^ (7 * k)) :
    delimitedLen tag length ≤ 1 + k + length := by
  have hkey := keyLen_le_one htag
  have hlen := varintLen_le hk h
  rw [delimitedLen]
  omega

lemma bytesLen_le {bytes : Bytes} (htag : tag < 16) (hk : 0 < k) (h : bytes.length < 2 ^ (7 * k)) :
    bytesLen tag bytes ≤ 1 + k + bytes.length := by
  rw [bytesLen]
  split
  · exact Nat.zero_le _
  · exact delimitedLen_le htag hk h

lemma stringLen_le {s : String} (htag : tag < 16) (hk : 0 < k) (h : s.utf8ByteSize < 2 ^ (7 * k)) :
    stringLen tag s ≤ 1 + k + s.utf8ByteSize := by
  rw [stringLen]
  split
  · exact Nat.zero_le _
  · exact delimitedLen_le htag hk h

end Fields

lemma hostname_le {hostname : String} (h : validateHostname hostname = .ok ()) :
    hostname.utf8ByteSize ≤ 253 := by
  simp only [validateHostname, bind_eq_ok, require_eq_ok] at h
  obtain ⟨_, ⟨-, hle, -⟩, -⟩ := h
  exact hle

lemma ipAddress_le {address : Bytes} (h : validateIpAddress address = .ok ()) :
    address.length ≤ 16 := by
  rw [validateIpAddress, require_eq_ok] at h
  omega

lemma destination_le {message : OpenTcpStream} (h : validateOpenTcp message = .ok ()) :
    optionLen 2 Destination.encodedLen message.destination ≤ 259 := by
  simp only [validateOpenTcp, bind_eq_ok] at h
  obtain ⟨_, -, h⟩ := h
  cases hdest : message.destination with
  | none => exact Nat.zero_le _
  | some destination =>
    have hlen : destination.encodedLen ≤ 256 := by
      rw [Destination.encodedLen]
      simp only [hdest, Option.bind_some] at h
      split
      next => exact Nat.zero_le _
      next name hvalue =>
        simp only [hvalue, bind_eq_ok] at h
        obtain ⟨_, hhost, -⟩ := h
        have hle := hostname_le hhost
        exact (delimitedLen_le (k := 2) (by decide) (by decide) (by omega)).trans (by omega)
      next address hvalue =>
        simp only [hvalue, bind_eq_ok] at h
        obtain ⟨_, haddress, -⟩ := h
        have hle := ipAddress_le haddress
        exact (delimitedLen_le (k := 1) (by decide) Nat.one_pos (by omega)).trans (by omega)
    exact (delimitedLen_le (k := 2) (by decide) (by decide) (by omega)).trans (by omega)

lemma addresses_le {message : ResolveResult} (h : validateResolveResult message = .ok ()) :
    (message.ipAddresses.map fun address => delimitedLen 3 address.length).sum ≤ 288 := by
  simp only [validateResolveResult, bind_eq_ok, require_eq_ok] at h
  obtain ⟨_, -, _, hlength, error, -, h⟩ := h
  have haddress : ∀ address ∈ message.ipAddresses, address.length ≤ 16 := by
    split at h
    · simp only [bind_eq_ok, forIn_eq_ok] at h
      obtain ⟨_, -, _, hall, -⟩ := h
      exact fun address hmem => ipAddress_le (hall address hmem)
    · rw [require_eq_ok] at h
      simp [h.1]
  have hsum : (message.ipAddresses.map fun address => delimitedLen 3 address.length).sum ≤
      message.ipAddresses.length * 18 := by
    refine List.sum_le_card_nsmul _ 18 ?_ |>.trans (by simp)
    intro n hn
    obtain ⟨address, hmem, rfl⟩ := List.mem_map.mp hn
    have hle := haddress address hmem
    exact (delimitedLen_le (by decide) Nat.one_pos (by omega)).trans (by omega)
  have hmax : maxResolveAddresses = 16 := rfl
  omega

variable {field : String}

lemma nonce_le {nonce : Bytes} (h : boundedRange nonce 8 32 field = .ok ()) :
    bytesLen 1 nonce ≤ 34 := by
  rw [boundedRange, require_eq_ok] at h
  exact (bytesLen_le (k := 1) (by decide) Nat.one_pos (by omega)).trans (by omega)

lemma exactLength_le (tag : ℕ) {value : Bytes} {u : Unit} (h : exactLength value 16 field = .ok u)
    (htag : tag < 16 := by decide) : bytesLen tag value ≤ 18 := by
  rw [exactLength, require_eq_ok] at h
  exact (bytesLen_le (k := 1) htag Nat.one_pos (by omega)).trans (by omega)

lemma body_le {tag length : ℕ} (htag : tag < 32) (h : length ≤ 400) :
    delimitedLen tag length ≤ 404 := by
  have hkey := keyLen_le_two htag
  have hlen : varintLen length ≤ 2 := varintLen_le (by decide) (by omega)
  rw [delimitedLen]
  omega

lemma Body.encodedLen_le {body : Body} (h : validateBody body = .ok ())
    (hhello : body.isHello = false) (hdata : body.isData = false) : body.encodedLen ≤ 404 := by
  cases body with
  | clientHello | serverHello | authenticate | authenticationResult => cases hhello
  | data => cases hdata
  | openTcpStream message =>
    have hdestination := destination_le h
    have hid := uint64Len_le 1 message.streamId
    have hport := uint32Len_le 3 message.destinationPort
    have htimeout := uint32Len_le 4 message.timeoutMs
    have hflags := uint32Len_le 5 message.policyFlags
    have hwindow := uint32Len_le 6 message.initialReceiveWindow
    refine body_le (by decide) ?_
    rw [OpenTcpStream.encodedLen]
    omega
  | tcpStreamOpened message =>
    have hid := uint64Len_le 1 message.streamId
    have hwindow := uint32Len_le 2 message.initialReceiveWindow
    refine body_le (by decide) ?_
    rw [TcpStreamOpened.encodedLen]
    omega
  | tcpStreamRejected message =>
    have hid := uint64Len_le 1 message.streamId
    have hcode := int32Len_le 2 message.errorCode
    have hretry := int32Len_le 3 message.retryHint
    refine body_le (by decide) ?_
    rw [TcpStreamRejected.encodedLen]
    omega
  | windowUpdate message =>
    have hid := uint64Len_le 1 message.streamId
    have hcredit := uint32Len_le 2 message.credit
    refine body_le (by decide) ?_
    rw [WindowUpdate.encodedLen]
    omega
  | halfClose message =>
    exact body_le (by decide) ((uint64Len_le 1 message.streamId).trans (by decide))
  | closeStream message =>
    have hid := uint64Len_le 1 message.streamId
    have hcode := int32Len_le 2 message.code
    refine body_le (by decide) ?_
    rw [CloseStream.encodedLen]
    omega
  | resolveDomain message =>
    have hhost : stringLen 2 message.hostname ≤ 256 := by
      rw [validateBody, validateResolveDomain] at h
      simp only [bind_eq_ok] at h
      obtain ⟨_, -, _, hhost, -⟩ := h
      have hle := hostname_le hhost
      exact (stringLen_le (k := 2) (by decide) (by decide) (by omega)).trans (by omega)
    have hid := uint64Len_le 1 message.queryId
    have hfamily := int32Len_le 3 message.addressFamily
    have htimeout := uint32Len_le 4 message.timeoutMs
    refine body_le (by decide) ?_
    rw [ResolveDomain.encodedLen]
    omega
  | resolveResult message =>
    have hsum := addresses_le h
    have hid := uint64Len_le 1 message.queryId
    have herror := int32Len_le 2 message.errorCode
    have httl := uint32Len_le 4 message.minimumTtlSeconds
    refine body_le (by decide) ?_
    rw [ResolveResult.encodedLen]
    omega
  | rotateSession message =>
    rw [validateBody, validateRotateSession] at h
    simp only [bind_eq_ok] at h
    obtain ⟨_, hexact, -⟩ := h
    have hnonce := exactLength_le 1 hexact
    have hreason := int32Len_le 2 message.reason
    have htimeout := uint32Len_le 3 message.drainTimeoutMs
    refine body_le (by decide) ?_
    rw [RotateSession.encodedLen]
    omega
  | sessionRotated message =>
    rw [validateBody, validateSessionRotated] at h
    simp only [bind_eq_ok] at h
    obtain ⟨_, hexact, -⟩ := h
    have hnonce := exactLength_le 1 hexact
    have haccepted := boolLen_le 2 message.accepted
    have herror := int32Len_le 3 message.errorCode
    have hrequired := boolLen_le 4 message.replacementTransportRequired
    refine body_le (by decide) ?_
    rw [SessionRotated.encodedLen]
    omega
  | ping message | pong message =>
    exact body_le (by decide) ((nonce_le h).trans (by decide))
  | error message =>
    rw [validateBody, validateError] at h
    simp only [bind_eq_ok] at h
    have hcorrelation : bytesLen 6 message.correlationId ≤ 18 := by
      obtain ⟨_, -, _, -, _, -, h⟩ := h
      split at h
      · simp only [bind_eq_ok] at h
        obtain ⟨_, -, _, -, hexact⟩ := h
        exact exactLength_le 6 hexact
      · simp only [bind_eq_ok] at h
        obtain ⟨_, -, hexact⟩ := h
        exact exactLength_le 6 hexact
    have hcode := int32Len_le 1 message.code
    have hretry := int32Len_le 2 message.retryHint
    have hfatal := boolLen_le 3 message.fatal
    have hid := uint64Len_le 4 message.streamId
    have hafter := uint32Len_le 5 message.retryAfterMs
    refine body_le (by decide) ?_
    rw [Error.encodedLen]
    omega
  | goAway message =>
    have hid := uint64Len_le 1 message.lastAcceptedStreamId
    have hcode := int32Len_le 2 message.code
    have htimeout := uint32Len_le 3 message.drainTimeoutMs
    refine body_le (by decide) ?_
    rw [GoAway.encodedLen]
    omega

end OnionRoute.GatewayProtocol
