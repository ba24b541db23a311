import OnionRoute.Library.OnesComplement

/-! Checked IPv4 packet parsing and synthetic packet construction. -/

namespace OnionRoute.PacketEngine

open Library

structure Ipv4Addr where
  a : UInt8
  b : UInt8
  c : UInt8
  d : UInt8
  deriving DecidableEq

def Ipv4Addr.octets (x : Ipv4Addr) : Bytes :=
  [x.a, x.b, x.c, x.d]

inductive PacketError
  | truncated
  | invalidVersion
  | invalidLength
  | invalidIpv4Checksum
  | invalidTransportChecksum
  | fragmented
  | invalidPort
  deriving DecidableEq

inductive IpProtocolClass
  | tcp
  | udp
  | icmp
  | other (value : UInt8)
  deriving DecidableEq

structure TcpFlags where
  fin : Bool := false
  syn : Bool := false
  rst : Bool := false
  psh : Bool := false
  ack : Bool := false
  deriving DecidableEq

namespace TcpFlags

def synAck : TcpFlags := { syn := true, ack := true }

def ackOnly : TcpFlags := { ack := true }

def finAck : TcpFlags := { fin := true, ack := true }

def rstAck : TcpFlags := { rst := true, ack := true }

def bits (f : TcpFlags) : UInt8 :=
  f.fin.toUInt8 ||| (f.syn.toUInt8 <<< 1) ||| (f.rst.toUInt8 <<< 2) ||| (f.psh.toUInt8 <<< 3) |||
    (f.ack.toUInt8 <<< 4)

def ofBits (flags : UInt8) : TcpFlags where
  fin := flags &&& 0x01 != 0
  syn := flags &&& 0x02 != 0
  rst := flags &&& 0x04 != 0
  psh := flags &&& 0x08 != 0
  ack := flags &&& 0x10 != 0

end TcpFlags

structure TcpSegment where
  source : Ipv4Addr
  destination : Ipv4Addr
  sourcePort : UInt16
  destinationPort : UInt16
  sequence : UInt32
  acknowledgement : UInt32
  window : UInt16
  flags : TcpFlags
  payload : Bytes
  deriving DecidableEq

structure UdpDatagram where
  source : Ipv4Addr
  destination : Ipv4Addr
  sourcePort : UInt16
  destinationPort : UInt16
  payload : Bytes
  deriving DecidableEq

structure IcmpPacket where
  source : Ipv4Addr
  destination : Ipv4Addr
  messageType : UInt8
  code : UInt8
  deriving DecidableEq

inductive ClassifiedPacket
  | tcp (segment : TcpSegment)
  | udp (datagram : UdpDatagram)
  | icmp (packet : IcmpPacket)
  | ipv6
  | other (protocol : IpProtocolClass)
  deriving DecidableEq

def byteAt (bytes : Bytes) (i : ℕ) : UInt8 :=
  bytes.getD i 0

def u16At (bytes : Bytes) (i : ℕ) : UInt16 :=
  fromBe16 (byteAt bytes i) (byteAt bytes (i + 1))

def u32At (bytes : Bytes) (i : ℕ) : UInt32 :=
  fromBe32 (byteAt bytes i) (byteAt bytes (i + 1)) (byteAt bytes (i + 2)) (byteAt bytes (i + 3))

def ipv4At (bytes : Bytes) (i : ℕ) : Ipv4Addr :=
  ⟨byteAt bytes i, byteAt bytes (i + 1), byteAt bytes (i + 2), byteAt bytes (i + 3)⟩

def checksum (bytes : Bytes) : UInt16 :=
  onesComplement bytes

def transportChecksum (source destination : Ipv4Addr) (protocol : UInt8) (bytes : Bytes) : UInt16 :=
  checksum (source.octets ++ destination.octets ++ [0, protocol] ++
    beBytes16 (UInt16.ofNat bytes.length) ++ bytes)

def parseTcp (source destination : Ipv4Addr) (bytes : Bytes) : Except PacketError TcpSegment :=
  let headerLen := (byteAt bytes 12 >>> 4).toNat * 4
  let sourcePort := u16At bytes 0
  let destinationPort := u16At bytes 2
  if bytes.length < 20 then .error .truncated
  else if headerLen < 20 ∨ headerLen > bytes.length then .error .invalidLength
  else if sourcePort = 0 ∨ destinationPort = 0 then .error .invalidPort
  else if transportChecksum source destination 6 bytes ≠ 0 then .error .invalidTransportChecksum
  else .ok {
    source, destination, sourcePort, destinationPort
    sequence := u32At bytes 4
    acknowledgement := u32At bytes 8
    window := u16At bytes 14
    flags := TcpFlags.ofBits (byteAt bytes 13)
    payload := bytes.drop headerLen }

def parseUdp (source destination : Ipv4Addr) (bytes : Bytes) : Except PacketError UdpDatagram :=
  let sourcePort := u16At bytes 0
  let destinationPort := u16At bytes 2
  let length := (u16At bytes 4).toNat
  if bytes.length < 8 then .error .truncated
  else if sourcePort = 0 ∨ destinationPort = 0 then .error .invalidPort
  else if length < 8 ∨ length > bytes.length then .error .invalidLength
  else if u16At bytes 6 ≠ 0 ∧ transportChecksum source destination 17 (bytes.take length) ≠ 0 then
    .error .invalidTransportChecksum
  else .ok {
    source, destination, sourcePort, destinationPort
    payload := (bytes.take length).drop 8 }

def classifyIpv4 (packet : Bytes) : Except PacketError ClassifiedPacket :=
  let headerLen := (byteAt packet 0 &&& 0x0f).toNat * 4
  let totalLen := (u16At packet 2).toNat
  let source := ipv4At packet 12
  let destination := ipv4At packet 16
  let payload := (packet.take totalLen).drop headerLen
  if packet.length < 20 then .error .truncated
  else if headerLen < 20 ∨ totalLen < headerLen ∨ totalLen > packet.length then
    .error .invalidLength
  else if checksum (packet.take headerLen) ≠ 0 then .error .invalidIpv4Checksum
  else if u16At packet 6 &&& 0x3fff ≠ 0 then .error .fragmented
  else if byteAt packet 9 = 6 then (parseTcp source destination payload).map .tcp
  else if byteAt packet 9 = 17 then (parseUdp source destination payload).map .udp
  else if byteAt packet 9 = 1 then
    if payload.length < 4 then .error .truncated
    else .ok (.icmp ⟨source, destination, byteAt payload 0, byteAt payload 1⟩)
  else .ok (.other (.other (byteAt packet 9)))

def classify (packet : Bytes) : Except PacketError ClassifiedPacket :=
  match packet.head? with
  | none => .error .truncated
  | some first =>
    if first >>> 4 = 4 then classifyIpv4 packet
    else if first >>> 4 = 6 then
      if packet.length < 40 then .error .truncated
      else if saturatingAdd 40 (u16At packet 4).toNat > packet.length then .error .invalidLength
      else .ok .ipv6
    else .error .invalidVersion

def ipv4Bytes (totalLen : UInt16) (protocol : UInt8) (headerChecksum : UInt16)
    (source destination : Ipv4Addr) : Bytes :=
  [0x45, 0] ++ beBytes16 totalLen ++ [0, 0] ++ beBytes16 0x4000 ++ [64, protocol] ++
    beBytes16 headerChecksum ++ source.octets ++ destination.octets

def tcpBytes (sourcePort destinationPort : UInt16) (sequence acknowledgement : UInt32)
    (flags : TcpFlags) (window tcpChecksum : UInt16) (payload : Bytes) : Bytes :=
  beBytes16 sourcePort ++ beBytes16 destinationPort ++ beBytes32 sequence ++
    beBytes32 acknowledgement ++ [(5 : UInt8) <<< 4, flags.bits] ++ beBytes16 window ++
    beBytes16 tcpChecksum ++ [0, 0] ++ payload

def udpBytes (sourcePort destinationPort udpLen udpChecksum : UInt16) (payload : Bytes) : Bytes :=
  beBytes16 sourcePort ++ beBytes16 destinationPort ++ beBytes16 udpLen ++
    beBytes16 udpChecksum ++ payload

def ipv4Header (totalLen : UInt16) (protocol : UInt8) (source destination : Ipv4Addr) : Bytes :=
  ipv4Bytes totalLen protocol (checksum (ipv4Bytes totalLen protocol 0 source destination))
    source destination

def buildTcpPacket (source destination : Ipv4Addr) (sourcePort destinationPort : UInt16)
    (sequence acknowledgement : UInt32) (flags : TcpFlags) (window : UInt16) (payload : Bytes) :
    Bytes :=
  let totalLen := saturatingAdd 40 payload.length
  let segment := fun c =>
    tcpBytes sourcePort destinationPort sequence acknowledgement flags window c payload
  if totalLen > 65535 then []
  else ipv4Header (UInt16.ofNat totalLen) 6 source destination ++
    segment (transportChecksum source destination 6 (segment 0))

def buildUdpPacket (source destination : Ipv4Addr) (sourcePort destinationPort : UInt16)
    (payload : Bytes) : Bytes :=
  let udpLen := saturatingAdd 8 payload.length
  let totalLen := saturatingAdd 20 udpLen
  let datagram := fun c => udpBytes sourcePort destinationPort (UInt16.ofNat udpLen) c payload
  if totalLen > 65535 then []
  else ipv4Header (UInt16.ofNat totalLen) 17 source destination ++
    datagram (transportChecksum source destination 17 (datagram 0))

end OnionRoute.PacketEngine
