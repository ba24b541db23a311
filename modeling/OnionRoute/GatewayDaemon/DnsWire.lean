import OnionRoute.GatewayDaemon.Acl

/-! DNS messages on the wire: queries, names and responses. -/

namespace OnionRoute.GatewayDaemon

open Library

def dnsHeaderBytes : ℕ := 12
def typeA : UInt16 := 1
def typeCname : UInt16 := 5
def typeAaaa : UInt16 := 28
def classIn : UInt16 := 1

structure DnsConfig where
  maxResponseBytes : ℕ := 16 * 1024
  maxRecords : ℕ := 64
  maxCnameDepth : ℕ := 8
  maxAddresses : ℕ := 16
  revalidate : Bool := true
  maxResponseBytes_range : 512 ≤ maxResponseBytes ∧ maxResponseBytes ≤ 65535 := by decide
  maxRecords_range : 1 ≤ maxRecords ∧ maxRecords ≤ 256 := by decide
  maxCnameDepth_range : 1 ≤ maxCnameDepth ∧ maxCnameDepth ≤ 16 := by decide
  maxAddresses_range : 1 ≤ maxAddresses ∧ maxAddresses ≤ 64 := by decide

def readU16 (wire : Bytes) (offset : ℕ) : GatewayResult UInt16 :=
  match wire[offset]?, wire[offset + 1]? with
  | some high, some low => .ok (fromBe16 high low)
  | _, _ => .error .dnsFailure

def encodeLabels : List Bytes → GatewayResult Bytes
  | [] => .ok [0]
  | label :: rest =>
    if label.length = 0 ∨ 63 < label.length then
      .error .dnsFailure
    else do
      let tail ← encodeLabels rest
      return UInt8.ofNat label.length :: label ++ tail

def encodeName (hostname : Bytes) : GatewayResult Bytes := encodeLabels (hostname.splitOn dot)

def buildQuery (id : UInt16) (hostname : Bytes) (recordType : UInt16) : GatewayResult Bytes := do
  let name ← encodeName hostname
  return beBytes16 id ++ beBytes16 0x0100 ++ beBytes16 1 ++ List.replicate 6 0 ++ name ++
    beBytes16 recordType ++ beBytes16 classIn

structure NameReader where
  cursor : ℕ
  consumedEnd : Option ℕ
  labels : List Bytes
  visited : List ℕ
  expanded : ℕ

namespace NameReader

def start (cursor : ℕ) : NameReader := ⟨cursor, none, [], [], 0⟩

def labelReadable (label : Bytes) : Bool :=
  label.length ≤ 63 && (label.all fun b => isAsciiAlphanumeric b || b == hyphen) &&
    label.head? ≠ some hyphen && label.getLast? ≠ some hyphen

def step (wire : Bytes) (r : NameReader) : GatewayResult (NameReader ⊕ Bytes × ℕ) :=
  if r.cursor ∈ r.visited then
    .error .dnsFailure
  else
    match wire[r.cursor]? with
    | none => .error .dnsFailure
    | some length =>
      if length &&& 0xc0 = 0xc0 then
        match wire[r.cursor + 1]? with
        | none => .error .dnsFailure
        | some second =>
          let target := (length &&& 0x3f).toNat * 256 + second.toNat
          if wire.length ≤ target then
            .error .dnsFailure
          else
            .ok (.inl { r with
              cursor := target
              consumedEnd := some (r.consumedEnd.getD (r.cursor + 2))
              visited := r.cursor :: r.visited })
      else if length &&& 0xc0 ≠ 0 then
        .error .dnsFailure
      else if length = 0 then
        if r.labels = [] ∨ 253 < r.expanded then
          .error .dnsFailure
        else
          .ok (.inr ([dot].intercalate r.labels, r.consumedEnd.getD (r.cursor + 1)))
      else
        let label := (wire.drop (r.cursor + 1)).take length.toNat
        if wire.length < r.cursor + 1 + length.toNat ∨ ¬ labelReadable label then
          .error .dnsFailure
        else
          .ok (.inl { r with
            cursor := r.cursor + 1 + length.toNat
            labels := r.labels ++ [label.map toAsciiLowercase]
            visited := r.cursor :: r.visited
            expanded := r.expanded + length.toNat + if r.labels = [] then 0 else 1 })

def run (wire : Bytes) : ℕ → NameReader → GatewayResult (Bytes × ℕ)
  | 0, _ => .error .dnsFailure
  | turns + 1, r => do
    match ← r.step wire with
    | .inl next => run wire turns next
    | .inr result => return result

end NameReader

-- `for _ in 0..=16`
def readNameTurns : ℕ := 17

def readName (wire : Bytes) (start : ℕ) : GatewayResult (Bytes × ℕ) :=
  (NameReader.start start).run wire readNameTurns

structure ClientQuestion where
  id : UInt16
  name : Bytes
  deriving DecidableEq

def validateClientQuery (parsesAsIp : Bytes → Bool) (query : Bytes) (maxBytes : ℕ) :
    GatewayResult ClientQuestion := do
  if query.length < dnsHeaderBytes ∨ maxBytes < query.length then
    throw .messageTooLarge
  let flags ← readU16 query 2
  let questions ← readU16 query 4
  let answers ← readU16 query 6
  let authorities ← readU16 query 8
  let additional ← readU16 query 10
  if flags &&& 0x8000 ≠ 0 ∨ questions ≠ 1 ∨ answers ≠ 0 ∨ authorities ≠ 0 ∨ additional ≠ 0 then
    throw .protocolViolation
  let (name, cursor) ← readName query dnsHeaderBytes
  if cursor + 4 ≠ query.length then
    throw .protocolViolation
  let _ ← canonicalHostname parsesAsIp name
  let id ← readU16 query 0
  return ⟨id, name⟩

inductive AnswerData
  | address (address : IpAddr)
  | cname (target : Bytes)
  | other
  deriving DecidableEq

structure AnswerRecord where
  owner : Bytes
  data : AnswerData
  deriving DecidableEq

def toVector (n : ℕ) (octets : Bytes) : List.Vector UInt8 n :=
  .ofFn fun i => octets.getD i 0

def readRecord (wire : Bytes) (cursor : ℕ) : GatewayResult (AnswerRecord × ℕ) := do
  let (owner, nameEnd) ← readName wire cursor
  if wire.length < nameEnd + 10 then
    throw .dnsFailure
  let recordType ← readU16 wire nameEnd
  let class_ ← readU16 wire (nameEnd + 2)
  let dataLength := (← readU16 wire (nameEnd + 8)).toNat
  let dataStart := nameEnd + 10
  let dataEnd := dataStart + dataLength
  if wire.length < dataEnd then
    throw .dnsFailure
  if class_ = classIn ∧ recordType = typeA ∧ dataLength = 4 then
    return (⟨owner, .address (.v4 (toVector 4 (wire.drop dataStart)))⟩, dataEnd)
  else if class_ = classIn ∧ recordType = typeAaaa ∧ dataLength = 16 then
    return (⟨owner, .address (.v6 (toVector 16 (wire.drop dataStart)))⟩, dataEnd)
  else if class_ = classIn ∧ recordType = typeCname then
    let (target, consumed) ← readName wire dataStart
    if consumed ≠ dataEnd then
      throw .dnsFailure
    return (⟨owner, .cname target⟩, dataEnd)
  else
    return (⟨owner, .other⟩, dataEnd)

def readRecords (wire : Bytes) : ℕ → ℕ → GatewayResult (List AnswerRecord × ℕ)
  | 0, cursor => .ok ([], cursor)
  | count + 1, cursor => do
    let (record, next) ← readRecord wire cursor
    let (records, finish) ← readRecords wire count next
    return (record :: records, finish)

def AnswerRecord.address? (record : AnswerRecord) : Option IpAddr :=
  match record.data with
  | .address address => some address
  | _ => none

def AnswerRecord.cname? (record : AnswerRecord) : Option Bytes :=
  match record.data with
  | .cname target => some target
  | _ => none

def addressesOf (answers : List AnswerRecord) (name : Bytes) : List IpAddr :=
  (answers.filter (·.owner = name)).filterMap AnswerRecord.address?

def aliasesOf (answers : List AnswerRecord) (name : Bytes) : List Bytes :=
  (answers.filter (·.owner = name)).filterMap AnswerRecord.cname?

structure Chain where
  addresses : List IpAddr
  terminalName : Bytes
  cnameDepth : ℕ

/-- The alias loop of `parse_response`, with at most `left` aliases to follow. -/
def followAliases (answers : List AnswerRecord) :
    ℕ → List Bytes → Bytes → ℕ → GatewayResult Chain
  | left, visited, current, depth =>
    if current ∈ visited then
      .error .dnsFailure
    else if addressesOf answers current ≠ [] then
      .ok ⟨addressesOf answers current, current, depth⟩
    else
      match aliasesOf answers current, left with
      | [], _ => .ok ⟨[], current, depth⟩
      | [target], left + 1 => followAliases answers left (current :: visited) target (depth + 1)
      | _, _ => .error .dnsFailure

structure ParsedResponse extends Chain where
  allAddresses : List IpAddr

def parseResponse (wire : Bytes) (expectedId : UInt16) (expectedName : Bytes) (maxRecords : ℕ) :
    GatewayResult ParsedResponse := do
  if wire.length < dnsHeaderBytes then
    throw .dnsFailure
  let id ← readU16 wire 0
  if id ≠ expectedId then
    throw .dnsFailure
  let flags ← readU16 wire 2
  let qdcount ← readU16 wire 4
  let ancount ← readU16 wire 6
  let nscount ← readU16 wire 8
  let arcount ← readU16 wire 10
  let totalRecords := ancount.toNat + nscount.toNat + arcount.toNat
  if flags &&& 0x8000 = 0 ∨ flags &&& 0x000f ≠ 0 ∨ qdcount ≠ 1 ∨ maxRecords < totalRecords then
    throw .dnsFailure
  let (questionName, questionEnd) ← readName wire dnsHeaderBytes
  if questionName ≠ expectedName ∨ wire.length < questionEnd + 4 then
    throw .dnsFailure
  let (records, finish) ← readRecords wire totalRecords (questionEnd + 4)
  if finish ≠ wire.length then
    throw .dnsFailure
  let chain ← followAliases (records.take ancount.toNat) 16 [] expectedName 0
  return { chain with allAddresses := records.filterMap AnswerRecord.address? }

end OnionRoute.GatewayDaemon
