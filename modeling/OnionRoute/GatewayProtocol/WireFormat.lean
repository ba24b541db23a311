import OnionRoute.Library.Varint
import OnionRoute.GatewayProtocol.Messages

/-! The protobuf encoding of the messages of the gateway protocol. -/

namespace OnionRoute.GatewayProtocol

open Library

def fieldKey (tag wireType : ℕ) : Bytes := varint (tag * 8 + wireType)

def delimited (tag : ℕ) (content : Bytes) : Bytes :=
  fieldKey tag 2 ++ varint content.length ++ content

def uintField (tag n : ℕ) : Bytes := if n = 0 then [] else fieldKey tag 0 ++ varint n

def int32Field (tag : ℕ) (n : Int32) : Bytes := uintField tag n.toInt64.toUInt64.toNat

def int64Field (tag : ℕ) (n : Int64) : Bytes := uintField tag n.toUInt64.toNat

def boolField (tag : ℕ) (b : Bool) : Bytes := uintField tag b.toNat

def bytesField (tag : ℕ) (bytes : Bytes) : Bytes :=
  if bytes = [] then [] else delimited tag bytes

def utf8Bytes (s : String) : Bytes := s.toUTF8.data.toList

def stringField (tag : ℕ) (s : String) : Bytes :=
  if s.utf8ByteSize = 0 then [] else delimited tag (utf8Bytes s)

def stringsField (tag : ℕ) (strings : List String) : Bytes :=
  strings.flatMap fun s => delimited tag (utf8Bytes s)

def optionField {α : Type} (tag : ℕ) (encode : α → Bytes) (value : Option α) : Bytes :=
  value.elim [] fun a => delimited tag (encode a)

def packedField (tag : ℕ) (values : List UInt32) : Bytes :=
  if values = [] then [] else delimited tag (values.flatMap fun value => varint value.toNat)

def ProtocolVersion.encode (v : ProtocolVersion) : Bytes :=
  uintField 1 v.major.toNat ++ uintField 2 v.minor.toNat

def ProtocolVersionRange.encode (r : ProtocolVersionRange) : Bytes :=
  optionField 1 ProtocolVersion.encode r.minimum ++ optionField 2 ProtocolVersion.encode r.maximum

def ClientHello.encode (m : ClientHello) : Bytes :=
  optionField 1 ProtocolVersionRange.encode m.supportedVersions ++
    stringsField 2 m.clientCapabilities ++ int32Field 3 m.anonymityMode ++
    stringField 4 m.desiredCountry ++ bytesField 5 m.sessionNonce ++
    uintField 6 m.maximumFrameSize.toNat ++ uintField 7 m.initialConnectionReceiveWindow.toNat ++
    uintField 8 m.initialStreamReceiveWindow.toNat

def ServerHello.encode (m : ServerHello) : Bytes :=
  optionField 1 ProtocolVersionRange.encode m.supportedVersions ++
    optionField 2 ProtocolVersion.encode m.selectedVersion ++
    stringsField 3 m.enabledCapabilities ++ bytesField 4 m.echoedClientNonce ++
    bytesField 5 m.serverNonce ++ bytesField 6 m.ephemeralSessionId ++
    uintField 7 m.maximumFrameSize.toNat ++ uintField 8 m.maximumConcurrentStreams.toNat ++
    uintField 9 m.initialConnectionReceiveWindow.toNat ++
    uintField 10 m.initialStreamReceiveWindow.toNat ++ uintField 11 m.idleStreamTimeoutMs.toNat ++
    uintField 12 m.sessionTtlSeconds.toNat

def Authenticate.encode (m : Authenticate) : Bytes :=
  bytesField 1 m.anonymousCapabilityToken ++ bytesField 2 m.proofOfPossession ++
    bytesField 3 m.sessionNonceBinding

def AuthenticationResult.encode (m : AuthenticationResult) : Bytes :=
  boolField 1 m.accepted ++ int32Field 2 m.errorCode ++ stringsField 3 m.grantedCapabilities ++
    int64Field 4 m.expiresAtUnixSeconds

def Destination.encode (m : Destination) : Bytes :=
  match m.value with
  | none => []
  | some (.hostname name) => delimited 1 (utf8Bytes name)
  | some (.ipAddress address) => delimited 2 address

def OpenTcpStream.encode (m : OpenTcpStream) : Bytes :=
  uintField 1 m.streamId.toNat ++ optionField 2 Destination.encode m.destination ++
    uintField 3 m.destinationPort.toNat ++ uintField 4 m.timeoutMs.toNat ++
    uintField 5 m.policyFlags.toNat ++ uintField 6 m.initialReceiveWindow.toNat

def TcpStreamOpened.encode (m : TcpStreamOpened) : Bytes :=
  uintField 1 m.streamId.toNat ++ uintField 2 m.initialReceiveWindow.toNat

def TcpStreamRejected.encode (m : TcpStreamRejected) : Bytes :=
  uintField 1 m.streamId.toNat ++ int32Field 2 m.errorCode ++ int32Field 3 m.retryHint

def Data.encode (m : Data) : Bytes :=
  uintField 1 m.streamId.toNat ++ bytesField 2 m.payload

def WindowUpdate.encode (m : WindowUpdate) : Bytes :=
  uintField 1 m.streamId.toNat ++ uintField 2 m.credit.toNat

def HalfClose.encode (m : HalfClose) : Bytes :=
  uintField 1 m.streamId.toNat

def CloseStream.encode (m : CloseStream) : Bytes :=
  uintField 1 m.streamId.toNat ++ int32Field 2 m.code

def ResolveDomain.encode (m : ResolveDomain) : Bytes :=
  uintField 1 m.queryId.toNat ++ stringField 2 m.hostname ++ int32Field 3 m.addressFamily ++
    uintField 4 m.timeoutMs.toNat

def ResolveResult.encode (m : ResolveResult) : Bytes :=
  uintField 1 m.queryId.toNat ++ int32Field 2 m.errorCode ++
    (m.ipAddresses.flatMap fun address => delimited 3 address) ++
    uintField 4 m.minimumTtlSeconds.toNat

def RotateSession.encode (m : RotateSession) : Bytes :=
  bytesField 1 m.rotationNonce ++ int32Field 2 m.reason ++ uintField 3 m.drainTimeoutMs.toNat

def SessionRotated.encode (m : SessionRotated) : Bytes :=
  bytesField 1 m.rotationNonce ++ boolField 2 m.accepted ++ int32Field 3 m.errorCode ++
    boolField 4 m.replacementTransportRequired

def Ping.encode (m : Ping) : Bytes :=
  bytesField 1 m.nonce

def Pong.encode (m : Pong) : Bytes :=
  bytesField 1 m.nonce

def Error.encode (m : Error) : Bytes :=
  int32Field 1 m.code ++ int32Field 2 m.retryHint ++ boolField 3 m.fatal ++
    uintField 4 m.streamId.toNat ++ uintField 5 m.retryAfterMs.toNat ++ bytesField 6 m.correlationId

def GoAway.encode (m : GoAway) : Bytes :=
  uintField 1 m.lastAcceptedStreamId.toNat ++ int32Field 2 m.code ++
    uintField 3 m.drainTimeoutMs.toNat

namespace Body

def tag : Body → ℕ
  | .clientHello _ => 10
  | .serverHello _ => 11
  | .authenticate _ => 12
  | .authenticationResult _ => 13
  | .openTcpStream _ => 14
  | .tcpStreamOpened _ => 15
  | .tcpStreamRejected _ => 16
  | .data _ => 17
  | .windowUpdate _ => 18
  | .halfClose _ => 19
  | .closeStream _ => 20
  | .resolveDomain _ => 21
  | .resolveResult _ => 22
  | .rotateSession _ => 23
  | .sessionRotated _ => 24
  | .ping _ => 25
  | .pong _ => 26
  | .error _ => 27
  | .goAway _ => 28

def content : Body → Bytes
  | .clientHello m => m.encode
  | .serverHello m => m.encode
  | .authenticate m => m.encode
  | .authenticationResult m => m.encode
  | .openTcpStream m => m.encode
  | .tcpStreamOpened m => m.encode
  | .tcpStreamRejected m => m.encode
  | .data m => m.encode
  | .windowUpdate m => m.encode
  | .halfClose m => m.encode
  | .closeStream m => m.encode
  | .resolveDomain m => m.encode
  | .resolveResult m => m.encode
  | .rotateSession m => m.encode
  | .sessionRotated m => m.encode
  | .ping m => m.encode
  | .pong m => m.encode
  | .error m => m.encode
  | .goAway m => m.encode

def encode (body : Body) : Bytes := delimited body.tag body.content

end Body

def GatewayFrame.encode (frame : GatewayFrame) : Bytes :=
  uintField 1 frame.sequence ++ optionField 2 ProtocolVersion.encode frame.version ++
    packedField 3 frame.criticalExtensionIds ++ bytesField 4 frame.sessionId ++
    frame.body.elim [] Body.encode

section Lengths

variable {tag : ℕ}

lemma length_varint_eq (n : ℕ) : (varint n).length = varintLen n :=
  length_varint n

section

variable (htag : 0 < tag)
include htag

lemma length_fieldKey {wireType : ℕ} (hwire : wireType < 8) :
    (fieldKey tag wireType).length = keyLen tag := by
  have hkey : (tag * 8 + wireType).log2 = tag.log2 + 3 := by
    rw [log2_shift (k := 3) (by omega), show (tag * 8 + wireType) / 2 ^ 3 = tag by omega]
  have hlen : (tag * 8).log2 = tag.log2 + 3 := by
    rw [log2_shift (k := 3) (by omega), show tag * 8 / 2 ^ 3 = tag by omega]
  rw [fieldKey, length_varint_eq, keyLen, varintLen, varintLen, hkey, hlen]

@[simp] lemma length_delimited (content : Bytes) :
    (delimited tag content).length = delimitedLen tag content.length := by
  rw [delimited, List.length_append, List.length_append, length_fieldKey htag (by decide),
    length_varint_eq, delimitedLen]

@[simp] lemma length_uintField (n : ℕ) : (uintField tag n).length = uintLen tag n := by
  rw [uintField, uintLen]
  split
  next => rfl
  next => rw [List.length_append, length_fieldKey htag (by decide), length_varint_eq]

@[simp] lemma length_int32Field (n : Int32) : (int32Field tag n).length = int32Len tag n :=
  length_uintField htag _

@[simp] lemma length_int64Field (n : Int64) : (int64Field tag n).length = int64Len tag n :=
  length_uintField htag _

@[simp] lemma length_boolField (b : Bool) : (boolField tag b).length = boolLen tag b :=
  length_uintField htag _

@[simp] lemma length_bytesField (bytes : Bytes) :
    (bytesField tag bytes).length = bytesLen tag bytes := by
  rw [bytesField, bytesLen]
  split
  next => rfl
  next => exact length_delimited htag bytes

end

@[simp] lemma length_utf8Bytes (s : String) : (utf8Bytes s).length = s.utf8ByteSize :=
  rfl

variable (htag : 0 < tag)
include htag

@[simp] lemma length_stringField (s : String) : (stringField tag s).length = stringLen tag s := by
  rw [stringField, stringLen]
  split
  next => rfl
  next => rw [length_delimited htag, length_utf8Bytes]

@[simp] lemma length_stringsField (strings : List String) :
    (stringsField tag strings).length = stringsLen tag strings := by
  simp [stringsField, stringsLen, List.length_flatMap, htag]

@[simp] lemma length_optionField {α : Type} {encode : α → Bytes} {encodedLen : α → ℕ}
    (h : ∀ a, (encode a).length = encodedLen a) (value : Option α) :
    (optionField tag encode value).length = optionLen tag encodedLen value := by
  cases value with
  | none => rfl
  | some a => simp [optionField, optionLen, htag, h]

@[simp] lemma length_packedField (values : List UInt32) :
    (packedField tag values).length = packedLen tag values := by
  rw [packedField, packedLen]
  split
  next => rfl
  next => simp [htag, List.length_flatMap, length_varint_eq]

end Lengths

lemma ProtocolVersion.length_encode (v : ProtocolVersion) : v.encode.length = v.encodedLen := by
  simp [encode, encodedLen]

lemma ProtocolVersionRange.length_encode (r : ProtocolVersionRange) :
    r.encode.length = r.encodedLen := by
  simp [encode, encodedLen, length_optionField _ ProtocolVersion.length_encode]

lemma Destination.length_encode (m : Destination) : m.encode.length = m.encodedLen := by
  obtain ⟨value⟩ := m
  rcases value with _ | name | address <;> simp [encode, encodedLen]

lemma Body.length_encode (body : Body) : body.encode.length = body.encodedLen := by
  cases body <;> simp [encode, tag, content, encodedLen, ClientHello.encode,
    ClientHello.encodedLen, ServerHello.encode, ServerHello.encodedLen, Authenticate.encode,
    Authenticate.encodedLen, AuthenticationResult.encode, AuthenticationResult.encodedLen,
    OpenTcpStream.encode, OpenTcpStream.encodedLen, TcpStreamOpened.encode,
    TcpStreamOpened.encodedLen, TcpStreamRejected.encode, TcpStreamRejected.encodedLen,
    Data.encode, Data.encodedLen, WindowUpdate.encode, WindowUpdate.encodedLen, HalfClose.encode,
    HalfClose.encodedLen, CloseStream.encode, CloseStream.encodedLen, ResolveDomain.encode,
    ResolveDomain.encodedLen, ResolveResult.encode, ResolveResult.encodedLen,
    RotateSession.encode, RotateSession.encodedLen, SessionRotated.encode,
    SessionRotated.encodedLen, Ping.encode, Ping.encodedLen, Pong.encode, Pong.encodedLen,
    Error.encode, Error.encodedLen, GoAway.encode, GoAway.encodedLen,
    length_optionField _ ProtocolVersionRange.length_encode,
    length_optionField _ ProtocolVersion.length_encode,
    length_optionField _ Destination.length_encode, List.length_flatMap, add_assoc]

lemma GatewayFrame.length_encode (frame : GatewayFrame) :
    frame.encode.length = frame.encodedLen := by
  obtain ⟨sequence, version, ids, sessionId, body⟩ := frame
  cases body <;> simp [encode, encodedLen, Body.length_encode,
    length_optionField _ ProtocolVersion.length_encode, add_assoc]

end OnionRoute.GatewayProtocol
