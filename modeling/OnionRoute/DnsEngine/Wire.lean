import OnionRoute.DnsEngine.Cache
import OnionRoute.Library.Outcome

/-! DNS messages of the client: queries, synthetic responses, and the check of a response. -/

namespace OnionRoute.DnsEngine

open Library CommonTypes
open PacketEngine (DnsQuery Ipv4Addr maxDnsMessageBytes)

def typeA : UInt16 := 1
def typeAaaa : UInt16 := 28
def typeOpt : UInt16 := 41
def optionEcs : UInt16 := 8

structure DnsResponse where
  queryId : UInt64
  wire : Bytes
  deriving DecidableEq

structure DnsQuestion where
  hostname : String
  recordType : UInt16
  recordClass : UInt16
  questionEnd : ℕ
  deriving DecidableEq

def malformed (message : String) : OnionError :=
  dnsError .protocolViolation .never message

def u16At (wire : Bytes) (offset : ℕ) : UInt16 :=
  fromBe16 (wire.getD offset 0) (wire.getD (offset + 1) 0)

def hyphen : UInt8 := 45

def labelText (label : Bytes) : Bool :=
  (label.all fun b => isAsciiAlphanumeric b || b == hyphen) &&
    label.head? ≠ some hyphen && label.getLast? ≠ some hyphen

def text (bytes : Bytes) : String := String.ofList (bytes.map fun b => Char.ofNat b.toNat)

structure NameReader where
  cursor : ℕ
  consumedEnd : Option ℕ
  labels : List Bytes
  jumps : ℕ
  expandedLen : ℕ

namespace NameReader

def start (cursor : ℕ) : NameReader := ⟨cursor, none, [], 0, 0⟩

def step (wire : Bytes) (r : NameReader) : OnionResult (NameReader ⊕ String × ℕ) :=
  match wire[r.cursor]? with
  | none => .error (malformed "DNS name is truncated")
  | some length =>
    if length &&& 0xc0 = 0xc0 then
      match wire[r.cursor + 1]? with
      | none => .error (malformed "DNS pointer is truncated")
      | some second =>
        let offset := (length &&& 0x3f).toNat * 256 + second.toNat
        if wire.length ≤ offset ∨ 16 ≤ r.jumps then
          .error (malformed "DNS compression pointer is invalid")
        else
          .ok (.inl { r with
            cursor := offset
            consumedEnd := some (r.consumedEnd.getD (r.cursor + 2))
            jumps := r.jumps + 1 })
    else if length &&& 0xc0 ≠ 0 then
      .error (malformed "DNS label encoding is invalid")
    else if length = 0 then
      if r.labels = [] ∨ 253 < r.expandedLen then
        .error (malformed "DNS hostname length is invalid")
      else
        .ok (.inr (text ([46].intercalate r.labels), r.consumedEnd.getD (r.cursor + 1)))
    else if 63 < length.toNat ∨ wire.length < r.cursor + 1 + length.toNat then
      .error (malformed "DNS label length is invalid")
    else
      let label := (wire.drop (r.cursor + 1)).take length.toNat
      if ¬ labelText label then
        .error (malformed "DNS hostname contains unsupported characters")
      else
        .ok (.inl { r with
          cursor := r.cursor + 1 + length.toNat
          labels := r.labels ++ [label.map toAsciiLowercase]
          -- The length is taken after the label is pushed, so a dot is counted for the first too.
          expandedLen := r.expandedLen + length.toNat + 1 })

def run (wire : Bytes) : ℕ → NameReader → Option (OnionResult (String × ℕ))
  | 0, _ => none
  | turns + 1, r =>
    match r.step wire with
    | .error e => some (.error e)
    | .ok (.inr result) => some (.ok result)
    | .ok (.inl next) => run wire turns next

def enough (wire : Bytes) : ℕ := 17 * (wire.length + 1)

end NameReader

def readName (wire : Bytes) (start : ℕ) : OnionResult (String × ℕ) :=
  -- The default is never taken, by `NameReader.run_isSome`.
  ((NameReader.start start).run wire (NameReader.enough wire)).getD (.error (malformed ""))

/-- The loop of `skip_name`, with the number of labels that may still follow. -/
def skipLabels (wire : Bytes) : ℕ → ℕ → OnionResult ℕ
  | left, cursor =>
    match wire[cursor]?, left with
    | none, _ => .error (malformed "DNS record name is truncated")
    | some length, left =>
      if length &&& 0xc0 = 0xc0 then
        if wire[cursor + 1]? = none then .error (malformed "DNS record pointer is truncated")
        else .ok (cursor + 2)
      else
        match left with
        | 0 => .error (malformed "DNS record name is invalid")
        | left + 1 =>
          if length &&& 0xc0 ≠ 0 then .error (malformed "DNS record name is invalid")
          else if length = 0 then .ok (cursor + 1)
          else if wire.length < cursor + 1 + length.toNat then
            .error (malformed "DNS record name is truncated")
          else skipLabels wire left (cursor + 1 + length.toNat)

def skipName (wire : Bytes) (start : ℕ) : OnionResult ℕ := skipLabels wire 128 start

def ecsForbidden : OnionError :=
  dnsError .policyDenied .never "EDNS Client Subnet is forbidden"

/-- Each option is at least four octets long, so that as many turns as octets are enough. -/
def checkOptions (wire : Bytes) (finish : ℕ) : ℕ → ℕ → OnionResult Unit
  | 0, _ => .ok ()
  | turns + 1, option =>
    if finish ≤ option then .ok ()
    else if finish < option + 4 then .error (malformed "EDNS option is truncated")
    else
      let length := (u16At wire (option + 2)).toNat
      if finish < option + 4 + length then .error (malformed "EDNS option length is invalid")
      else if u16At wire option = optionEcs then .error ecsForbidden
      else checkOptions wire finish turns (option + 4 + length)

def checkRecords (wire : Bytes) : ℕ → ℕ → OnionResult ℕ
  | 0, cursor => .ok cursor
  | left + 1, cursor => do
    let cursor ← skipName wire cursor
    if wire.length < cursor + 10 then
      throw (malformed "DNS resource record is truncated")
    let recordType := u16At wire cursor
    let finish := cursor + 10 + (u16At wire (cursor + 8)).toNat
    if wire.length < finish then
      throw (malformed "DNS resource data is truncated")
    if recordType = typeOpt then
      checkOptions wire finish (finish - (cursor + 10)) (cursor + 10)
    checkRecords wire left finish

def declaredRecords (wire : Bytes) : ℕ :=
  (u16At wire 6).toNat + (u16At wire 8).toNat + (u16At wire 10).toNat

def rejectEcs (wire : Bytes) (cursor : ℕ) : OnionResult Unit := do
  if 128 < declaredRecords wire then
    throw (malformed "DNS record count exceeds limit")
  let finish ← checkRecords wire (declaredRecords wire) cursor
  if finish ≠ wire.length then
    throw (malformed "DNS query contains trailing bytes")

def parseQuery (wire : Bytes) : OnionResult DnsQuestion := do
  if wire.length < 12 ∨ maxDnsMessageBytes < wire.length then
    throw (malformed "DNS query size is invalid")
  let flags := u16At wire 2
  if flags &&& 0x8000 ≠ 0 then
    throw (malformed "DNS query has response flag")
  if flags &&& 0x7800 ≠ 0 then
    throw (malformed "DNS opcode is unsupported")
  if flags &&& 0x0240 ≠ 0 then
    throw (malformed "truncated or reserved DNS query flags are invalid")
  if u16At wire 4 ≠ 1 then
    throw (malformed "DNS query must contain one question")
  let (hostname, nameEnd) ← readName wire 12
  if wire.length < nameEnd + 4 then
    throw (malformed "DNS question is truncated")
  rejectEcs wire (nameEnd + 4)
  return ⟨hostname, u16At wire nameEnd, u16At wire (nameEnd + 2), nameEnd + 4⟩

def responseHeader (query : Bytes) (answers : UInt16) : Bytes :=
  query.take 2 ++ beBytes16 (0x8080 ||| (u16At query 2 &&& 0x0100)) ++ beBytes16 1 ++
    beBytes16 answers ++ beBytes16 0 ++ beBytes16 0

def aRecord (address : Ipv4Addr) (ttl : UInt32) : Bytes :=
  [0xc0, 0x0c] ++ beBytes16 typeA ++ beBytes16 1 ++ beBytes32 ttl ++ beBytes16 4 ++ address.octets

def questionBytes (query : Bytes) (questionEnd : ℕ) : Bytes := (query.take questionEnd).drop 12

def aResponse (query : Bytes) (questionEnd : ℕ) (address : Ipv4Addr) (ttl : UInt32) : Bytes :=
  responseHeader query 1 ++ questionBytes query questionEnd ++ aRecord address ttl

def emptySuccessResponse (query : Bytes) (questionEnd : ℕ) : Bytes :=
  responseHeader query 0 ++ questionBytes query questionEnd

def errorResponse (query : Bytes) (rcode : UInt16) : Bytes :=
  let id := if 2 ≤ query.length then query.take 2 else [0, 0]
  let requestFlags := if 4 ≤ query.length then u16At query 2 else 0
  id ++ beBytes16 (0x8080 ||| (requestFlags &&& 0x0100) ||| (rcode &&& 0x0f)) ++ List.replicate 8 0

def resolutionFailed (message : String) : OnionError :=
  dnsError .dnsResolutionFailed .backoff message

def validateResponse (query : DnsQuery) (response : DnsResponse) : OnionResult Unit := do
  if response.queryId ≠ query.queryId ∨ response.wire.length < 12 ∨
      maxDnsMessageBytes < response.wire.length ∨ response.wire.take 2 ≠ query.wire.take 2 ∨
      response.wire.getD 2 0 &&& 0x80 = 0 then
    throw (resolutionFailed "protected DNS response is invalid")
  let expected ← parseQuery query.wire
  if u16At response.wire 2 &&& 0x7800 ≠ 0 ∨ u16At response.wire 4 ≠ 1 then
    throw (resolutionFailed "protected DNS response header is invalid")
  let (hostname, nameEnd) ← readName response.wire 12
  if response.wire.length < nameEnd + 4 then
    throw (resolutionFailed "protected DNS response question is truncated")
  if hostname ≠ expected.hostname ∨ u16At response.wire nameEnd ≠ expected.recordType ∨
      u16At response.wire (nameEnd + 2) ≠ expected.recordClass then
    throw (resolutionFailed "protected DNS response question does not match the query")
  rejectEcs response.wire (nameEnd + 4)

namespace Cache

def advertisedTtl (config : SyntheticDnsConfig) : UInt32 :=
  UInt32.ofNat (config.ttl / nanosPerSecond)

def syntheticResponse (config : SyntheticDnsConfig) (now : ℕ) (query : DnsQuery)
    (question : DnsQuestion) (c : Cache) : OnionResult DnsResponse × Cache :=
  if question.recordClass ≠ 1 then
    (.ok ⟨query.queryId, errorResponse query.wire 5⟩, c)
  else if question.recordType = typeAaaa then
    (.ok ⟨query.queryId, emptySuccessResponse query.wire question.questionEnd⟩, c)
  else
    match c.getOrAllocate config now question.hostname with
    | (.error e, c) => (.error e, c)
    | (.ok address, c) =>
      (.ok ⟨query.queryId,
        aResponse query.wire question.questionEnd address (advertisedTtl config)⟩, c)

end Cache

end OnionRoute.DnsEngine
