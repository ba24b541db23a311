import OnionRoute.TorBackend.ReplyMatching

/-! One call of `command_inner` over any bytes that the socket delivers. -/

namespace OnionRoute.TorBackend

open Library CommonTypes
open GatewayProtocol (utf8Bytes)

inductive Sending
  | done
  | writeFailed
  | flushFailed
  deriving DecidableEq

/-- What the calls of `read_until` return on a stream that ends, or fails, after these bytes. -/
def readUntil (stream : Bytes) (fails : Bool) : List Bytes :=
  (linesFrom lineFeed [] stream).map (· ++ [lineFeed]) ++
    if fails then [] else [fragmentAfter lineFeed [] stream, []]

def readReply (lines : List String) (total : ℕ) : List Bytes → Ending
  | [] => .returned (.error (controlUnavailable "Tor control read failed"))
  | bytes :: rest =>
    match acceptLine lines total bytes with
    | .ends ending => ending
    | .continues lines total => readReply lines total rest

def commandInner (command : String) (sending : Sending) (stream : Bytes) (fails : Bool) : Ending :=
  if commandRefused command then invalidCommand
  else
    match sending with
    | .writeFailed => .returned (.error (controlUnavailable "Tor control write failed"))
    | .flushFailed => .returned (.error (controlUnavailable "Tor control flush failed"))
    | .done => readReply [] 0 (readUntil stream fails)

def lineText (bytes : Bytes) : Option String :=
  fromUtf8 (dropEnding carriageReturn (dropEnding lineFeed bytes))

def cutsCharacter (line : String) : Bool := (separator (utf8Bytes line)).any isContinuation

def startsWithCode (line : String) : Bool :=
  3 ≤ (utf8Bytes line).length ∧ ((utf8Bytes line).take 3).all isAsciiDigit

structure Accepted (bytes : Bytes) (line : String) : Prop where
  text : lineText bytes = some line
  bounded : bytes.length ≤ maxControlLine
  code : startsWithCode line = true

def Continues (bytes : Bytes) : Prop :=
  ∃ line, Accepted bytes line ∧ separator (utf8Bytes line) = some dash

structure Cuts (total : ℕ) (bytes : Bytes) : Prop where
  bounded : bytes.length ≤ maxControlLine
  fits : total + bytes.length ≤ maxControlReply
  cut : ∃ line, lineText bytes = some line ∧ cutsCharacter line = true

inductive AcceptLine (lines : List String) (total : ℕ) (bytes : Bytes) : LineOutcome → Prop
  | refused (error : OnionError) : AcceptLine lines total bytes (.ends (.returned (.error error)))
  | panicked : Cuts total bytes → AcceptLine lines total bytes (.ends .panicked)
  | continued {line : String} : Accepted bytes line → Continues bytes →
    AcceptLine lines total bytes (.continues (lines ++ [line]) (total + bytes.length))
  | ended {line : String} : Accepted bytes line → total + bytes.length ≤ maxControlReply →
    utf8Bytes "250 " <+: utf8Bytes line →
    AcceptLine lines total bytes (.ends (.returned (.ok (lines ++ [line]))))

lemma digits_of_replyCode {a b c : UInt8} (ha : isAsciiDigit a = true) (hb : isAsciiDigit b = true)
    (hc : isAsciiDigit c = true) (h : replyCode a b c = 250) : a = 0x32 ∧ b = 0x35 ∧ c = 0x30 := by
  simp only [isAsciiDigit, decide_eq_true_eq, UInt8.le_iff_toNat_le] at ha hb hc
  simp only [← UInt8.toNat_inj]
  simp only [replyCode] at h
  rw [show (0x30 : UInt8).toNat = 48 from rfl, show (0x39 : UInt8).toNat = 57 from rfl] at ha hb hc
  rw [show (0x30 : UInt8).toNat = 48 from rfl, show (0x32 : UInt8).toNat = 50 from rfl,
    show (0x35 : UInt8).toNat = 53 from rfl]
  omega

variable {lines result : List String} {total : ℕ} {bytes : Bytes} {reads : List Bytes}

lemma acceptText_cases {line : String} (htext : lineText bytes = some line)
    (hbytes : bytes.length ≤ maxControlLine) (htotal : total + bytes.length ≤ maxControlReply) :
    AcceptLine lines total bytes (acceptText lines (total + bytes.length) line) := by
  unfold acceptText
  split
  next a b c separator rest hline =>
    split_ifs with hcut hdigits hspace hcode hdash
    · exact .panicked ⟨hbytes, htotal, line, htext,
        by simp [cutsCharacter, TorBackend.separator, hline, hcut]⟩
    all_goals try exact .refused _
    all_goals
      have haccepted : Accepted bytes line := ⟨htext, hbytes, by simp [startsWithCode, hline, hdigits]⟩
    · obtain ⟨rfl, rfl, rfl⟩ := digits_of_replyCode hdigits.1 hdigits.2.1 hdigits.2.2 (not_not.mp hcode)
      refine .ended haccepted htotal ⟨rest, ?_⟩
      rw [hline, hspace]
      exact rfl
    · refine .continued haccepted ⟨line, haccepted, ?_⟩
      simpa [TorBackend.separator, hline] using hdash
  next => exact .refused _

lemma acceptLine_cases : AcceptLine lines total bytes (acceptLine lines total bytes) := by
  unfold acceptLine
  split_ifs with hlength htotal
  · exact .refused _
  · exact .refused _
  cases hline : lineText bytes with
  | none =>
    rw [lineText] at hline
    rw [hline]
    exact .refused _
  | some line =>
    have hcases : AcceptLine lines total bytes _ :=
      acceptText_cases hline (by omega) (not_lt.mp htotal)
    rw [lineText] at hline
    rw [hline]
    exact hcases

lemma utf8Bytes_of_separator {line : String} {byte : UInt8}
    (h : separator (utf8Bytes line) = some byte) :
    ∃ a b c rest, utf8Bytes line = a :: b :: c :: byte :: rest := by
  match hline : utf8Bytes line with
  | [] | [_] | [_, _] | [_, _, _] => simp [separator, hline] at h
  | a :: b :: c :: d :: rest =>
    obtain rfl : d = byte := by simpa [separator, hline] using h
    exact ⟨a, b, c, rest, rfl⟩

lemma acceptLine_eq {line : String} {byte : UInt8} (htext : lineText bytes = some line)
    (hbytes : bytes.length ≤ maxControlLine) (htotal : total + bytes.length ≤ maxControlReply)
    (hbyte : separator (utf8Bytes line) = some byte) :
    acceptLine lines total bytes = acceptText lines (total + bytes.length) line := by
  have hne : bytes.length ≠ 0 := by
    intro hzero
    obtain rfl := List.length_eq_zero_iff.mp hzero
    have hempty : lineText [] = some "" := by decide +kernel
    obtain rfl := Option.some.inj (hempty.symm.trans htext)
    cases hbyte
  rw [lineText] at htext
  rw [acceptLine, if_neg (by omega), if_neg (by omega), htext]

lemma Cuts.acceptLine (h : Cuts total bytes) : acceptLine lines total bytes = .ends .panicked := by
  obtain ⟨hbytes, htotal, line, htext, hcut⟩ := h
  obtain ⟨byte, hbyte, hcontinuation⟩ : ∃ byte, separator (utf8Bytes line) = some byte ∧
      isContinuation byte = true := by
    simpa [cutsCharacter, Option.any_eq_true_iff_get, Option.eq_some_iff_get_eq] using hcut
  obtain ⟨a, b, c, rest, hline⟩ := utf8Bytes_of_separator hbyte
  rw [acceptLine_eq htext hbytes htotal hbyte]
  simp [acceptText, hline, hcontinuation]

lemma Continues.acceptLine (h : Continues bytes) (lines : List String)
    (htotal : total + bytes.length ≤ maxControlReply) :
    ∃ line, acceptLine lines total bytes = .continues (lines ++ [line]) (total + bytes.length) := by
  obtain ⟨line, ⟨htext, hbytes, hcode⟩, hdash⟩ := h
  obtain ⟨a, b, c, rest, hline⟩ := utf8Bytes_of_separator hdash
  have hdigits : isAsciiDigit a ∧ isAsciiDigit b ∧ isAsciiDigit c := by
    simpa [startsWithCode, hline] using hcode
  refine ⟨line, ?_⟩
  rw [acceptLine_eq htext hbytes htotal hdash]
  simp [acceptText, hline, hdigits, show isContinuation dash = false from rfl,
    show dash ≠ space from by decide]

lemma readReply_panicked_iff : readReply lines total reads = .panicked ↔
    ∃ before bytes after, reads = before ++ bytes :: after ∧ (∀ b ∈ before, Continues b) ∧
      Cuts (total + before.flatten.length) bytes := by
  induction reads generalizing lines total with
  | nil => simp [readReply]
  | cons bytes rest ih =>
    rw [readReply]
    constructor
    · intro h
      have hcases : AcceptLine lines total bytes _ := acceptLine_cases
      generalize acceptLine lines total bytes = outcome at h hcases
      cases hcases with
      | refused error => cases h
      | ended => cases h
      | panicked hcuts => exact ⟨[], bytes, rest, rfl, by simp, by simpa using hcuts⟩
      | continued haccepted hcontinues =>
        obtain ⟨before, last, after, rfl, hbefore, hcuts⟩ := ih.mp h
        refine ⟨bytes :: before, last, after, rfl, List.forall_mem_cons.mpr ⟨hcontinues, hbefore⟩, ?_⟩
        rwa [List.flatten_cons, List.length_append, ← Nat.add_assoc]
    · rintro ⟨before, last, after, heq, hbefore, hcuts⟩
      cases before with
      | nil =>
        obtain ⟨rfl, rfl⟩ := List.cons.inj heq
        rw [Cuts.acceptLine (by simpa using hcuts)]
      | cons first before =>
        obtain ⟨rfl, rfl⟩ := List.cons.inj heq
        obtain ⟨hfirst, hbefore⟩ := List.forall_mem_cons.mp hbefore
        rw [List.flatten_cons, List.length_append, ← Nat.add_assoc] at hcuts
        have hfits := hcuts.fits
        obtain ⟨line, hline⟩ := hfirst.acceptLine lines (by omega : total + _ ≤ maxControlReply)
        rw [hline]
        exact ih.mpr ⟨before, last, after, rfl, hbefore, hcuts⟩

lemma readReply_ok (h : readReply lines total reads = .returned (.ok result)) :
    ∃ taken texts, taken <+: reads ∧ result = lines ++ texts ∧ List.Forall₂ Accepted taken texts ∧
      total + taken.flatten.length ≤ maxControlReply ∧
      ∃ line ∈ texts.getLast?, utf8Bytes "250 " <+: utf8Bytes line := by
  induction reads generalizing lines total with
  | nil => cases h
  | cons bytes rest ih =>
    have hcases : AcceptLine lines total bytes _ := acceptLine_cases
    rw [readReply] at h
    generalize acceptLine lines total bytes = outcome at h hcases
    cases hcases with
    | refused error => cases h
    | panicked => cases h
    | @continued line haccepted _ =>
      obtain ⟨taken, texts, htaken, rfl, hrest, htotal, final, hfinal, hok⟩ := ih h
      refine ⟨bytes :: taken, line :: texts, ?_, by simp, .cons haccepted hrest, ?_, final, ?_, hok⟩
      · exact List.cons_prefix_cons.mpr ⟨rfl, htaken⟩
      · rw [List.flatten_cons, List.length_append]
        omega
      · rw [List.getLast?_cons, Option.mem_def.mp hfinal]
        rfl
    | @ended line haccepted htotal hok =>
      cases h
      exact ⟨[bytes], [line], by simp, rfl, .cons haccepted .nil, by simpa using htotal, line, rfl, hok⟩

lemma readUntil_prefix (stream : Bytes) (fails : Bool) :
    (readUntil stream fails).flatten <+: stream := by
  have hlines : ∀ fragment : Bytes,
      ((linesFrom lineFeed fragment stream).map (· ++ [lineFeed])).flatten ++
        fragmentAfter lineFeed fragment stream = fragment ++ stream := by
    induction stream with
    | nil => simp [linesFrom, fragmentAfter]
    | cons byte rest ih =>
      intro fragment
      by_cases hbyte : byte = lineFeed
      · simpa [linesFrom, fragmentAfter, hbyte] using ih []
      · simpa [linesFrom, fragmentAfter, hbyte] using ih (fragment ++ [byte])
  have hall := hlines []
  rw [readUntil]
  cases fails with
  | false => simp [hall]
  | true => simpa using ⟨_, hall⟩

theorem commandInner_ends_iff (command : String) (sending : Sending) (stream : Bytes)
    (fails : Bool) :
    (∃ result, commandInner command sending stream fails = .returned result ∧
      ∀ lines, result = .ok lines → ∃ taken, taken <+: readUntil stream fails ∧
        taken.flatten <+: stream ∧ taken.flatten.length ≤ maxControlReply ∧
        List.Forall₂ Accepted taken lines ∧
        ∃ line ∈ lines.getLast?, utf8Bytes "250 " <+: utf8Bytes line) ↔
      commandRefused command = true ∨ sending ≠ .done ∨
        ∀ before bytes after, readUntil stream fails = before ++ bytes :: after →
          (∀ b ∈ before, Continues b) → ¬ Cuts before.flatten.length bytes := by
  unfold commandInner
  split_ifs with hrefused
  · exact ⟨fun _ => .inl hrefused, fun _ => ⟨_, rfl, by rintro _ ⟨⟩⟩⟩
  cases sending with
  | writeFailed
  | flushFailed => exact ⟨fun _ => .inr (.inl (by decide)), fun _ => ⟨_, rfl, by rintro _ ⟨⟩⟩⟩
  | done =>
    constructor
    · rintro ⟨result, hresult, -⟩
      refine .inr (.inr fun before bytes after hsplit hbefore hcuts => ?_)
      have hpanic : readReply [] 0 (readUntil stream fails) = .panicked :=
        readReply_panicked_iff.mpr ⟨before, bytes, after, hsplit, hbefore, by simpa using hcuts⟩
      cases hpanic.symm.trans hresult
    · rintro (h | h | h)
      · exact absurd h hrefused
      · exact absurd rfl h
      cases hresult : readReply [] 0 (readUntil stream fails) with
      | panicked =>
        obtain ⟨before, bytes, after, hsplit, hbefore, hcuts⟩ := readReply_panicked_iff.mp hresult
        exact absurd (by simpa using hcuts) (h before bytes after hsplit hbefore)
      | returned result =>
        refine ⟨result, rfl, ?_⟩
        rintro lines rfl
        obtain ⟨taken, texts, htaken, rfl, haccepted, htotal, hlast⟩ := readReply_ok hresult
        refine ⟨taken, htaken, ?_, by simpa using htotal, haccepted, hlast⟩
        obtain ⟨more, hmore⟩ := htaken
        have hwhole := readUntil_prefix stream fails
        rw [← hmore, List.flatten_append] at hwhole
        exact (List.prefix_append _ _).trans hwhole

example : commandInner "AUTHENTICATE" .done (utf8Bytes "250-a\r\n250 OK\r\n12é\r\n") false =
    .returned (.ok ["250-a", "250 OK"]) := by
  decide +kernel

/-- Two digits and a letter of two bytes: the code ends inside of the letter. -/
theorem commandInner_panics :
    commandInner "AUTHENTICATE" .done (utf8Bytes "12é\r\n") false = .panicked := by
  decide +kernel

end OnionRoute.TorBackend
