import OnionRoute.PacketEngine.FlowMachine

/-! What `classify` reads back from the packets the engine builds. -/

namespace OnionRoute.PacketEngine

open Library

lemma ofBits_bits (f : TcpFlags) : TcpFlags.ofBits f.bits = f := by
  obtain ⟨fin, syn, rst, psh, ack⟩ := f
  cases fin <;> cases syn <;> cases rst <;> cases psh <;> cases ack <;> rfl

@[simp] lemma tcpBytes_length (sp dp : UInt16) (seq ack : UInt32) (flags : TcpFlags)
    (window c : UInt16) (payload : Bytes) :
    (tcpBytes sp dp seq ack flags window c payload).length = 20 + payload.length := by
  simp [tcpBytes]
  omega

@[simp] lemma udpBytes_length (sp dp len c : UInt16) (payload : Bytes) :
    (udpBytes sp dp len c payload).length = 8 + payload.length := by
  simp [udpBytes]
  omega

@[simp] lemma ipv4Bytes_length (len : UInt16) (protocol : UInt8) (c : UInt16) (src dst : Ipv4Addr) :
    (ipv4Bytes len protocol c src dst).length = 20 := by
  simp [ipv4Bytes, Ipv4Addr.octets]

@[simp] lemma ipv4Header_length (len : UInt16) (protocol : UInt8) (src dst : Ipv4Addr) :
    (ipv4Header len protocol src dst).length = 20 :=
  ipv4Bytes_length ..

lemma checksum_ipv4Header (len : UInt16) (protocol : UInt8) (src dst : Ipv4Addr) :
    checksum (ipv4Header len protocol src dst) = 0 := by
  have h := onesComplement_verifies
    ([0x45, 0] ++ beBytes16 len ++ [0, 0] ++ beBytes16 0x4000 ++ [64, protocol])
    (src.octets ++ dst.octets) (by simp) (by simp [Ipv4Addr.octets])
  simpa only [checksum, ipv4Header, ipv4Bytes, List.append_assoc] using h

def pseudoHeader (src dst : Ipv4Addr) (protocol : UInt8) (length : ℕ) : Bytes :=
  src.octets ++ dst.octets ++ [0, protocol] ++ beBytes16 (UInt16.ofNat length)

section

variable (src dst : Ipv4Addr)

lemma transportChecksum_tcpBytes (sp dp : UInt16) (seq ack : UInt32) (flags : TcpFlags)
    (window : UInt16) (payload : Bytes) (hl : payload.length ≤ 65495) :
    transportChecksum src dst 6 (tcpBytes sp dp seq ack flags window
      (transportChecksum src dst 6 (tcpBytes sp dp seq ack flags window 0 payload)) payload) = 0 := by
  have h := onesComplement_verifies
    (pseudoHeader src dst 6 (20 + payload.length) ++ beBytes16 sp ++ beBytes16 dp ++ beBytes32 seq ++
      beBytes32 ack ++ [(5 : UInt8) <<< 4, flags.bits] ++ beBytes16 window)
    ([0, 0] ++ payload) (by simp [pseudoHeader, Ipv4Addr.octets])
    (by simp [pseudoHeader, Ipv4Addr.octets]; omega)
  simp only [transportChecksum, checksum, tcpBytes_length]
  simpa only [tcpBytes, pseudoHeader, List.append_assoc] using h

lemma transportChecksum_udpBytes (sp dp len : UInt16) (payload : Bytes)
    (hl : payload.length ≤ 65507) :
    transportChecksum src dst 17 (udpBytes sp dp len
      (transportChecksum src dst 17 (udpBytes sp dp len 0 payload)) payload) = 0 := by
  have h := onesComplement_verifies
    (pseudoHeader src dst 17 (8 + payload.length) ++ beBytes16 sp ++ beBytes16 dp ++ beBytes16 len)
    payload (by simp [pseudoHeader, Ipv4Addr.octets])
    (by simp [pseudoHeader, Ipv4Addr.octets]; omega)
  simp only [transportChecksum, checksum, udpBytes_length]
  simpa only [udpBytes, pseudoHeader, List.append_assoc] using h

lemma parseTcp_tcpBytes (sp dp : UInt16) (seq ack : UInt32) (flags : TcpFlags) (window c : UInt16)
    (payload : Bytes) (hsp : sp ≠ 0) (hdp : dp ≠ 0)
    (hc : transportChecksum src dst 6 (tcpBytes sp dp seq ack flags window c payload) = 0) :
    parseTcp src dst (tcpBytes sp dp seq ack flags window c payload) =
      .ok ⟨src, dst, sp, dp, seq, ack, window, flags, payload⟩ := by
  have hlen : (byteAt (tcpBytes sp dp seq ack flags window c payload) 12 >>> 4).toNat * 4 = 20 := by
    have h12 : byteAt (tcpBytes sp dp seq ack flags window c payload) 12 = (5 : UInt8) <<< 4 := rfl
    rw [h12]
    decide
  have h0 : u16At (tcpBytes sp dp seq ack flags window c payload) 0 = sp := fromBe16_beBytes16 sp
  have h2 : u16At (tcpBytes sp dp seq ack flags window c payload) 2 = dp := fromBe16_beBytes16 dp
  have h4 : u32At (tcpBytes sp dp seq ack flags window c payload) 4 = seq := fromBe32_beBytes32 seq
  have h8 : u32At (tcpBytes sp dp seq ack flags window c payload) 8 = ack := fromBe32_beBytes32 ack
  have h14 : u16At (tcpBytes sp dp seq ack flags window c payload) 14 = window :=
    fromBe16_beBytes16 window
  have hf : TcpFlags.ofBits (byteAt (tcpBytes sp dp seq ack flags window c payload) 13) = flags :=
    ofBits_bits flags
  have hp : (tcpBytes sp dp seq ack flags window c payload).drop 20 = payload := rfl
  simp only [parseTcp, hlen, h0, h2, h4, h8, h14, hf, hp, hc, tcpBytes_length]
  simp [hsp, hdp]

lemma parseUdp_udpBytes (sp dp c : UInt16) (payload : Bytes)
    (hl : payload.length ≤ 65507) (hsp : sp ≠ 0) (hdp : dp ≠ 0)
    (hc : transportChecksum src dst 17
      (udpBytes sp dp (UInt16.ofNat (8 + payload.length)) c payload) = 0) :
    parseUdp src dst (udpBytes sp dp (UInt16.ofNat (8 + payload.length)) c payload) =
      .ok ⟨src, dst, sp, dp, payload⟩ := by
  set bytes := udpBytes sp dp (UInt16.ofNat (8 + payload.length)) c payload with hb
  have h0 : u16At bytes 0 = sp := fromBe16_beBytes16 sp
  have h2 : u16At bytes 2 = dp := fromBe16_beBytes16 dp
  have hlen : (u16At bytes 4).toNat = bytes.length := by
    have h4 : u16At bytes 4 = UInt16.ofNat (8 + payload.length) := fromBe16_beBytes16 _
    rw [h4, UInt16.toNat_ofNat', hb, udpBytes_length]
    omega
  have hbl : bytes.length = 8 + payload.length := udpBytes_length ..
  have hp : bytes.drop 8 = payload := rfl
  simp only [parseUdp, h0, h2, hlen, List.take_length, hc, hp]
  simp [hsp, hdp, hbl]

lemma classify_ipv4Header (protocol : UInt8) (payload : Bytes) (hl : payload.length ≤ 65515) :
    classify (ipv4Header (UInt16.ofNat (20 + payload.length)) protocol src dst ++ payload) =
      if protocol = 6 then (parseTcp src dst payload).map .tcp
      else if protocol = 17 then (parseUdp src dst payload).map .udp
      else if protocol = 1 then
        if payload.length < 4 then .error .truncated
        else .ok (.icmp ⟨src, dst, byteAt payload 0, byteAt payload 1⟩)
      else .ok (.other (.other protocol)) := by
  set header := ipv4Header (UInt16.ofNat (20 + payload.length)) protocol src dst with hh
  have hlen : header.length = 20 := ipv4Header_length ..
  have hsum : checksum header = 0 := checksum_ipv4Header ..
  have htake : (header ++ payload).take 20 = header := List.take_left' hlen
  have hdrop : (header ++ payload).drop 20 = payload := List.drop_left' hlen
  have hfirst : (header ++ payload).head? = some 0x45 := rfl
  have h0 : byteAt (header ++ payload) 0 = 0x45 := rfl
  have htotal : (u16At (header ++ payload) 2).toNat = 20 + payload.length := by
    have h2 : u16At (header ++ payload) 2 = UInt16.ofNat (20 + payload.length) :=
      fromBe16_beBytes16 (UInt16.ofNat (20 + payload.length))
    rw [h2, UInt16.toNat_ofNat']
    omega
  have h6 : u16At (header ++ payload) 6 = 0x4000 := fromBe16_beBytes16 0x4000
  have h9 : byteAt (header ++ payload) 9 = protocol := rfl
  have h12 : ipv4At (header ++ payload) 12 = src := rfl
  have h16 : ipv4At (header ++ payload) 16 = dst := rfl
  have hall : (header ++ payload).take (20 + payload.length) = header ++ payload := by
    apply List.take_of_length_le
    rw [List.length_append, hlen]
  have hver : (0x45 : UInt8) >>> 4 = 4 := rfl
  have hihl : ((0x45 : UInt8) &&& 0x0f).toNat * 4 = 20 := rfl
  have hfrag : ((0x4000 : UInt16) &&& 0x3fff) = 0 := rfl
  simp only [classify, hfirst, hver, if_true, classifyIpv4, h0, hihl, htotal, h6, h9, h12, h16,
    htake, hall, hdrop, hsum, hfrag, List.length_append, hlen]
  simp

variable (sp dp : UInt16)

theorem classify_buildTcpPacket (seq ack : UInt32) (flags : TcpFlags) (window : UInt16)
    (payload : Bytes) (hsp : sp ≠ 0) (hdp : dp ≠ 0) (hl : payload.length ≤ 65495) :
    classify (buildTcpPacket src dst sp dp seq ack flags window payload) =
      .ok (.tcp ⟨src, dst, sp, dp, seq, ack, window, flags, payload⟩) := by
  have hsat : saturatingAdd 40 payload.length = 20 + (20 + payload.length) := by
    simp only [saturatingAdd, u64Max]
    omega
  have hfit : ¬ 20 + (20 + payload.length) > 65535 := by omega
  have hc := transportChecksum_tcpBytes src dst sp dp seq ack flags window payload hl
  have hcl := classify_ipv4Header src dst 6
    (tcpBytes sp dp seq ack flags window
      (transportChecksum src dst 6 (tcpBytes sp dp seq ack flags window 0 payload)) payload)
    (by rw [tcpBytes_length]; omega)
  rw [tcpBytes_length] at hcl
  simp only [buildTcpPacket, hsat, if_neg hfit, hcl, if_true,
    parseTcp_tcpBytes src dst sp dp seq ack flags window _ payload hsp hdp hc, Except.map]

lemma classify_buildUdpPacket_eq (payload : Bytes) (hl : payload.length ≤ 65507) :
    classify (buildUdpPacket src dst sp dp payload) =
      (parseUdp src dst (udpBytes sp dp (UInt16.ofNat (8 + payload.length))
        (transportChecksum src dst 17
          (udpBytes sp dp (UInt16.ofNat (8 + payload.length)) 0 payload)) payload)).map .udp := by
  have hsat : saturatingAdd 8 payload.length = 8 + payload.length := by
    simp only [saturatingAdd, u64Max]
    omega
  have hsat' : saturatingAdd 20 (8 + payload.length) = 20 + (8 + payload.length) := by
    simp only [saturatingAdd, u64Max]
    omega
  have hfit : ¬ 20 + (8 + payload.length) > 65535 := by omega
  have hcl := classify_ipv4Header src dst 17
    (udpBytes sp dp (UInt16.ofNat (8 + payload.length))
      (transportChecksum src dst 17
        (udpBytes sp dp (UInt16.ofNat (8 + payload.length)) 0 payload)) payload)
    (by rw [udpBytes_length]; omega)
  rw [udpBytes_length] at hcl
  have h17 : ¬ (17 : UInt8) = 6 := by decide
  simp only [buildUdpPacket, hsat, hsat', if_neg hfit, hcl, if_neg h17, if_true]

theorem classify_buildUdpPacket (payload : Bytes) (hsp : sp ≠ 0) (hdp : dp ≠ 0)
    (hl : payload.length ≤ 65507) :
    classify (buildUdpPacket src dst sp dp payload) = .ok (.udp ⟨src, dst, sp, dp, payload⟩) := by
  have hc := transportChecksum_udpBytes src dst sp dp (UInt16.ofNat (8 + payload.length)) payload hl
  rw [classify_buildUdpPacket_eq src dst sp dp payload hl,
    parseUdp_udpBytes src dst sp dp _ payload hl hsp hdp hc]
  rfl

end

theorem packet_round_trip (src dst : Ipv4Addr) (sp dp : UInt16) (hsp : sp ≠ 0) (hdp : dp ≠ 0) :
    (∀ seq ack flags window payload, 40 + payload.length ≤ 65535 →
      classify (buildTcpPacket src dst sp dp seq ack flags window payload) =
        .ok (.tcp ⟨src, dst, sp, dp, seq, ack, window, flags, payload⟩)) ∧
      ∀ payload, 28 + payload.length ≤ 65535 →
        classify (buildUdpPacket src dst sp dp payload) = .ok (.udp ⟨src, dst, sp, dp, payload⟩) := by
  constructor
  · intro seq ack flags window payload hl
    exact classify_buildTcpPacket src dst sp dp seq ack flags window payload hsp hdp (by omega)
  · intro payload hl
    exact classify_buildUdpPacket src dst sp dp payload hsp hdp (by omega)

theorem packet_round_trip_hello :
    classify (buildTcpPacket ⟨10, 0, 0, 1⟩ ⟨10, 0, 0, 2⟩ 443 49152 7 9 .ackOnly 1024 [104, 105, 33]) =
        .ok (.tcp ⟨⟨10, 0, 0, 1⟩, ⟨10, 0, 0, 2⟩, 443, 49152, 7, 9, 1024, .ackOnly, [104, 105, 33]⟩) ∧
      classify (buildUdpPacket ⟨10, 0, 0, 1⟩ ⟨10, 0, 0, 2⟩ 443 49152 [104, 105, 33]) =
        .ok (.udp ⟨⟨10, 0, 0, 1⟩, ⟨10, 0, 0, 2⟩, 443, 49152, [104, 105, 33]⟩) := by
  obtain ⟨htcp, hudp⟩ := packet_round_trip ⟨10, 0, 0, 1⟩ ⟨10, 0, 0, 2⟩ 443 49152
    (by decide) (by decide)
  exact ⟨htcp _ _ _ _ _ (by decide), hudp _ (by decide)⟩

lemma classify_buildUdpPacket_ne_tcp (src dst : Ipv4Addr) (sp dp : UInt16) (payload : Bytes)
    (hl : payload.length ≤ 65507) (segment : TcpSegment) :
    classify (buildUdpPacket src dst sp dp payload) ≠ .ok (.tcp segment) := by
  rw [classify_buildUdpPacket_eq src dst sp dp payload hl]
  cases parseUdp src dst _ with
  | error e => exact nofun
  | ok datagram => exact nofun

lemma buildTcpPacket_eq_nil_iff (src dst : Ipv4Addr) (sp dp : UInt16) (seq ack : UInt32)
    (flags : TcpFlags) (window : UInt16) (payload : Bytes) :
    buildTcpPacket src dst sp dp seq ack flags window payload = [] ↔ 65495 < payload.length := by
  have hiff : saturatingAdd 40 payload.length > 65535 ↔ 65495 < payload.length := by
    simp only [saturatingAdd, u64Max]
    omega
  simp only [buildTcpPacket, hiff]
  by_cases h : 65495 < payload.length
  · simp [h]
  · rw [if_neg h]
    refine ⟨fun he => ?_, fun hl => absurd hl h⟩
    have hlen := congrArg List.length he
    rw [List.length_append, ipv4Header_length] at hlen
    simp at hlen

variable {src dst : Ipv4Addr} {bytes : Bytes} {segment : TcpSegment}

lemma parseTcp_ports (h : parseTcp src dst bytes = .ok segment) :
    segment.sourcePort ≠ 0 ∧ segment.destinationPort ≠ 0 := by
  simp only [parseTcp] at h
  split_ifs at h with _ _ hports
  obtain rfl := Except.ok.inj h
  exact not_or.mp hports

variable {datagram : UdpDatagram}

lemma parseUdp_ports (h : parseUdp src dst bytes = .ok datagram) :
    datagram.sourcePort ≠ 0 ∧ datagram.destinationPort ≠ 0 := by
  simp only [parseUdp] at h
  split_ifs at h with _ hports
  obtain rfl := Except.ok.inj h
  exact not_or.mp hports

variable {packet : Bytes}

lemma classify_transport {classified : ClassifiedPacket} (h : classify packet = .ok classified) :
    (∃ src dst bytes segment, parseTcp src dst bytes = .ok segment ∧ classified = .tcp segment) ∨
      (∃ src dst bytes datagram, parseUdp src dst bytes = .ok datagram ∧
        classified = .udp datagram) ∨
      ((∀ segment, classified ≠ .tcp segment) ∧ ∀ datagram, classified ≠ .udp datagram) := by
  simp only [classify, classifyIpv4] at h
  split at h
  · cases h
  · split_ifs at h
    · cases hp : parseTcp (ipv4At packet 12) (ipv4At packet 16) _ with
      | error e =>
        rw [hp] at h
        cases h
      | ok segment =>
        rw [hp] at h
        exact .inl ⟨_, _, _, segment, hp, (Except.ok.inj h).symm⟩
    · cases hp : parseUdp (ipv4At packet 12) (ipv4At packet 16) _ with
      | error e =>
        rw [hp] at h
        cases h
      | ok datagram =>
        rw [hp] at h
        exact .inr (.inl ⟨_, _, _, datagram, hp, (Except.ok.inj h).symm⟩)
    all_goals
      obtain rfl := Except.ok.inj h
      exact .inr (.inr ⟨nofun, nofun⟩)

lemma classify_tcp_ports (h : classify packet = .ok (.tcp segment)) :
    segment.sourcePort ≠ 0 ∧ segment.destinationPort ≠ 0 := by
  obtain ⟨_, _, _, _, hp, he⟩ | ⟨_, _, _, _, _, he⟩ | ⟨hn, _⟩ := classify_transport h
  · obtain rfl := ClassifiedPacket.tcp.inj he
    exact parseTcp_ports hp
  · cases he
  · exact absurd rfl (hn segment)

lemma classify_udp_ports (h : classify packet = .ok (.udp datagram)) :
    datagram.sourcePort ≠ 0 ∧ datagram.destinationPort ≠ 0 := by
  obtain ⟨_, _, _, _, _, he⟩ | ⟨_, _, _, _, hp, he⟩ | ⟨_, hn⟩ := classify_transport h
  · cases he
  · obtain rfl := ClassifiedPacket.udp.inj he
    exact parseUdp_ports hp
  · exact absurd rfl (hn datagram)

lemma classify_response (flow : FlowRecord) (sequence acknowledgement : UInt32) (flags : TcpFlags)
    (window : UInt16) (payload : Bytes) (hs : flow.key.source.port ≠ 0)
    (hd : flow.key.destination.port ≠ 0) (hl : payload.length ≤ 65495) :
    classify (responseFromValues flow sequence acknowledgement flags window payload) =
      .ok (.tcp ⟨flow.key.destination.address, flow.key.source.address, flow.key.destination.port,
        flow.key.source.port, sequence, acknowledgement, window, flags, payload⟩) :=
  classify_buildTcpPacket _ _ _ _ _ _ _ _ _ hd hs hl

end OnionRoute.PacketEngine
