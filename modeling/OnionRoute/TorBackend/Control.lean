import OnionRoute.CommonTypes.Error
import OnionRoute.GatewayProtocol.WireFormat
import OnionRoute.Library.Lines

/-! The control connection to the Tor process. A call can be timed out wherever it waits. -/

namespace OnionRoute.TorBackend

open Library CommonTypes
open GatewayProtocol (utf8Bytes)

def maxControlLine : ℕ := 8 * 1024
def maxControlReply : ℕ := 64 * 1024

def torError (code : ErrorCode) (severity : Severity) (retry : RetryClass) (safety : SafetyImpact)
    (message : String) : OnionError :=
  ⟨.tor, code, severity, retry, safety, message⟩

def controlUnavailable : String → OnionError :=
  torError .torUnavailable .error .backoff .protected_

def controlSecurityError : String → OnionError :=
  torError .torUnavailable .fatal .never .mustBlock

def lineFeed : UInt8 := 0x0a
def carriageReturn : UInt8 := 0x0d
def space : UInt8 := 0x20
def dash : UInt8 := 0x2d

def crlf : Bytes := [carriageReturn, lineFeed]

def isAsciiDigit (byte : UInt8) : Bool := 0x30 ≤ byte ∧ byte ≤ 0x39

def isContinuation (byte : UInt8) : Bool := 0x80 ≤ byte ∧ byte < 0xc0

def replyCode (a b c : UInt8) : ℕ :=
  100 * (a.toNat - 0x30) + 10 * (b.toNat - 0x30) + (c.toNat - 0x30)

def fromUtf8 (bytes : Bytes) : Option String := String.fromUTF8? ⟨bytes.toArray⟩

def dropEnding (byte : UInt8) (bytes : Bytes) : Bytes :=
  if bytes.getLast? = some byte then bytes.dropLast else bytes

inductive Ending
  | returned (result : OnionResult (List String))
  | panicked
  deriving DecidableEq

inductive LineOutcome
  | continues (lines : List String) (total : ℕ)
  | ends (ending : Ending)
  deriving DecidableEq

def malformed : LineOutcome :=
  .ends (.returned (.error (controlSecurityError "Tor control reply is malformed")))

def acceptText (lines : List String) (total : ℕ) (line : String) : LineOutcome :=
  match utf8Bytes line with
  | a :: b :: c :: separator :: _ =>
    if isContinuation separator then .ends .panicked
    else if ¬ (isAsciiDigit a ∧ isAsciiDigit b ∧ isAsciiDigit c) then malformed
    else if separator = space then
      if replyCode a b c ≠ 250 then
        .ends (.returned (.error (controlUnavailable "Tor control command was rejected")))
      else .ends (.returned (.ok (lines ++ [line])))
    else if separator ≠ dash then
      .ends (.returned (.error (controlSecurityError "unsupported Tor control reply framing")))
    else .continues (lines ++ [line]) total
  | _ => malformed

/-- One round of the reading loop, with what `read_until` has returned. -/
def acceptLine (lines : List String) (total : ℕ) (bytes : Bytes) : LineOutcome :=
  if bytes.length = 0 ∨ bytes.length > maxControlLine then malformed
  else if total + bytes.length > maxControlReply then
    .ends (.returned (.error (controlSecurityError "Tor control reply exceeds limit")))
  else
    match fromUtf8 (dropEnding carriageReturn (dropEnding lineFeed bytes)) with
    | none => .ends (.returned (.error (controlSecurityError "Tor control reply is not UTF-8")))
    | some line => acceptText lines (total + bytes.length) line

def commandRefused (command : String) : Bool :=
  ((utf8Bytes command).any fun byte => byte ∈ [carriageReturn, lineFeed, 0]) ∨
    command.utf8ByteSize > maxControlLine

section Tor

abbrev Text := {bytes : Bytes // carriageReturn ∉ bytes ∧ lineFeed ∉ bytes}

abbrev Code := {bytes : Bytes // bytes.length = 3 ∧ ∀ byte ∈ bytes, isAsciiDigit byte = true}

inductive ReplyItem
  | mid (code : Code) (text : Text)
  | data (code : Code) (text : Text) (body : List Text)

structure Reply where
  items : List ReplyItem
  code : Code
  text : Text

def ReplyItem.lines : ReplyItem → List Bytes
  | mid code text => [code.1 ++ dash :: text.1]
  | data code text body => (code.1 ++ 0x2b :: text.1) :: (body.map Subtype.val ++ [[0x2e]])

def Reply.lines (reply : Reply) : List Bytes :=
  reply.items.flatMap ReplyItem.lines ++ [reply.code.1 ++ space :: reply.text.1]

def encodeLines (lines : List Bytes) : Bytes := lines.flatMap (· ++ crlf)

def Reply.encode (reply : Reply) : Bytes := encodeLines reply.lines

end Tor

/-- It writes what is left of its command, or reads the reply to the `index`-th command that Tor
got. -/
inductive Call
  | writing (command : String) (rest : Bytes)
  | reading (command : String) (index : ℕ) (lines : List String) (total : ℕ) (fragment : Bytes)

structure Ended where
  command : String
  index : Option ℕ
  ending : Ending
  deriving DecidableEq

/-- The bytes that Tor has received, its replies in the order of the commands, those of their bytes
that the client has not read, and what an abandoned call has left in the write buffer. -/
structure Connection where
  sent : Bytes
  replies : List Reply
  arriving : Bytes
  buffered : Bytes
  call : Option Call
  ended : List Ended

namespace Connection

def start : Connection where
  sent := []
  replies := []
  arriving := []
  buffered := []
  call := none
  ended := []

def commands (c : Connection) : List Bytes :=
  (linesFrom lineFeed [] c.sent).map (dropEnding carriageReturn)

inductive Event
  | command (text : String)
  | flushed (n : ℕ)
  | answered (reply : Reply)
  | received (n : ℕ)
  | timedOut (kept : ℕ)
  | failed (flushing : Bool) (kept : ℕ)
  | closed

def finish (c : Connection) (command : String) (index : Option ℕ) (ending : Ending) : Connection :=
  { c with call := none, ended := ⟨command, index, ending⟩ :: c.ended }

def accept (c : Connection) (command : String) (index : ℕ) (outcome : LineOutcome) : Connection :=
  match outcome with
  | .continues lines total => { c with call := some (.reading command index lines total []) }
  | .ends ending => c.finish command (some index) ending

def act (c : Connection) : Event → Option Connection
  | .command text =>
    match c.call with
    | some _ => none
    | none =>
      if commandRefused text then
        some (c.finish text none
          (.returned (.error (controlSecurityError "invalid Tor control command"))))
      else some { c with
        buffered := []
        call := some (.writing text (c.buffered ++ utf8Bytes text ++ crlf)) }
  | .flushed n =>
    match c.call with
    | some (.writing command rest) =>
      let c := { c with sent := c.sent ++ rest.take n }
      if rest.drop n = [] then
        some { c with call := some (.reading command (c.commands.length - 1) [] 0 []) }
      else some { c with call := some (.writing command (rest.drop n)) }
    | _ => none
  | .answered reply =>
    if c.replies.length < c.commands.length then
      some { c with replies := c.replies ++ [reply], arriving := c.arriving ++ reply.encode }
    else none
  | .received n =>
    match c.call with
    | some (.reading command index lines total fragment) =>
      let taken := throughDelimiter lineFeed (c.arriving.take n)
      let c := { c with arriving := c.arriving.drop taken.length }
      if taken.getLast? = some lineFeed then
        some (c.accept command index (acceptLine lines total (fragment ++ taken)))
      else some { c with call := some (.reading command index lines total (fragment ++ taken)) }
    | _ => none
  | .timedOut kept =>
    let error := controlUnavailable "Tor control command timed out"
    match c.call with
    | some (.writing command rest) =>
      some ({ c with buffered := rest.take kept }.finish command none (.returned (.error error)))
    | some (.reading command index _ _ _) =>
      some (c.finish command (some index) (.returned (.error error)))
    | none => none
  | .failed flushing kept =>
    match c.call with
    | some (.writing command rest) =>
      let message := if flushing then "Tor control flush failed" else "Tor control write failed"
      some ({ c with buffered := rest.take kept }.finish command none
        (.returned (.error (controlUnavailable message))))
    | some (.reading command index _ _ _) =>
      some (c.finish command (some index)
        (.returned (.error (controlUnavailable "Tor control read failed"))))
    | none => none
  | .closed =>
    match c.call with
    | some (.reading command index lines total fragment) =>
      if c.arriving = [] then some (c.accept command index (acceptLine lines total fragment))
      else none
    | _ => none

def Step (c : Connection) (e : Event) (c' : Connection) : Prop := c.act e = some c'

end Connection

end OnionRoute.TorBackend
