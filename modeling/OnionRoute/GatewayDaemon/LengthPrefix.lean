import OnionRoute.GatewayDaemon.RunSession
import OnionRoute.GatewayMultihop.Messages
import OnionRoute.GatewayProtocol.DecoderAgreement

/-! The lengths in front of the frames, as the three readers of frames take them. -/

namespace OnionRoute

open Library

inductive LengthPrefix
  | accepted (length : ℕ) (rest : List UInt8)
  | rejected
  deriving DecidableEq

namespace GatewayProtocol

open FrameDecoder

def readLength (maximumFrameSize : ℕ) (stream : Bytes) : LengthPrefix :=
  match validateMaximum maximumFrameSize with
  | .error _ => .rejected
  | .ok _ =>
    match readDigits [] stream with
    | .rejected _ => .rejected
    | .starved => .rejected
    | .done digits rest =>
      match checkLength maximumFrameSize digits with
      | .error _ => .rejected
      | .ok length => .accepted length rest

variable {maximumFrameSize n : ℕ} {stream digits digits' rest : Bytes}

lemma append_of_readDigits (h : readDigits digits stream = .done digits' rest) :
    digits ++ stream = digits' ++ rest := by
  induction stream generalizing digits with
  | nil =>
    rw [readDigits] at h
    split at h <;> cases h
  | cons byte stream ih =>
    rw [readDigits] at h
    split_ifs at h with hfull hlast
    · cases h
      simp
    · simpa using ih h

lemma readLength_accepted (hmax : maximumFrameSize ≠ 0 ∧ maximumFrameSize ≤ absoluteMaxFrameSize) :
    readLength maximumFrameSize stream = .accepted n rest ↔
      stream = varint n ++ rest ∧ n ≠ 0 ∧ n ≤ maximumFrameSize := by
  have hvalid : validateMaximum maximumFrameSize = .ok () := require_eq_ok.mpr hmax
  simp only [readLength, hvalid]
  constructor
  · intro h
    split at h
    next => cases h
    next => cases h
    next digits later hread =>
      split at h
      next => cases h
      next length hlength =>
        cases h
        obtain ⟨hdecode, hn⟩ := checkLength_eq_ok.mp hlength
        obtain ⟨rfl, -⟩ := decodeCanonicalU32Varint_eq_ok.mp hdecode
        exact ⟨append_of_readDigits hread, hn⟩
  · rintro ⟨rfl, hn⟩
    have hsmall : n < 2 ^ 32 := (hn.2.trans hmax.2).trans_lt (by decide)
    have hlength : checkLength maximumFrameSize (varint n) = .ok n :=
      checkLength_eq_ok.mpr ⟨decodeCanonicalU32Varint_eq_ok.mpr ⟨rfl, hsmall⟩, hn⟩
    obtain ⟨init, last, hsplit, hinit, hlast, hroom⟩ := checkLength_split hlength
    have hread : readDigits [] (varint n ++ rest) = .done (varint n) rest := by
      rw [hsplit, List.append_assoc, readDigits_append hinit (by simpa using hroom.le),
        List.nil_append, List.singleton_append, readDigits, if_neg (by omega), if_pos hlast]
    simp [hread, hlength]

lemma readFrame_eq_done {decode : Bytes → Except String GatewayFrame} {frame : GatewayFrame}
    {later : Bytes} :
    readFrame decode maximumFrameSize stream = .done frame later ↔
      ∃ n rest, readLength maximumFrameSize stream = .accepted n rest ∧ n ≤ rest.length ∧
        decodeFrameBytes decode (rest.take n) = .ok frame ∧ rest.drop n = later := by
  rw [readFrame, readLength]
  cases validateMaximum maximumFrameSize with
  | error e => simp
  | ok _ =>
    cases readDigits [] stream with
    | rejected e => simp
    | starved => simp
    | done digits rest =>
      simp only [readBody]
      cases checkLength maximumFrameSize digits with
      | error e => simp
      | ok n =>
        by_cases hshort : rest.length < n
        · simp [hshort]
        · cases hframe : decodeFrameBytes decode (rest.take n) <;>
            simp [hshort, hframe, Nat.le_of_not_lt]

end GatewayProtocol

namespace GatewayMultihop

open GatewayProtocol (absoluteMaxFrameSize)

-- The two crates have the same text for these two functions, but for the errors.
def encodeU32Varint (value : UInt32) : Bytes := GatewayProtocol.encodeU32Varint value

def decodeCanonicalU32Varint (bytes : Bytes) : Result ℕ :=
  (GatewayProtocol.decodeCanonicalU32Varint bytes).mapError fun _ => .protocolViolation

def readLength (maximum : ℕ) (stream : Bytes) : LengthPrefix :=
  if maximum = 0 ∨ maximum > absoluteMaxFrameSize then .rejected
  else
    match GatewayProtocol.readDigits [] stream with
    | .rejected _ => .rejected
    | .starved => .rejected
    | .done digits rest =>
      match decodeCanonicalU32Varint digits with
      | .error _ => .rejected
      | .ok length => if length = 0 ∨ length > maximum then .rejected else .accepted length rest

lemma decodeCanonicalU32Varint_eq_ok {bytes : Bytes} {n : ℕ} :
    decodeCanonicalU32Varint bytes = .ok n ↔ GatewayProtocol.decodeCanonicalU32Varint bytes = .ok n := by
  rw [decodeCanonicalU32Varint]
  cases GatewayProtocol.decodeCanonicalU32Varint bytes <;> simp [Except.mapError]

lemma readLength_eq (maximum : ℕ) (stream : Bytes) :
    readLength maximum stream = GatewayProtocol.readLength maximum stream := by
  rw [readLength, GatewayProtocol.readLength, GatewayProtocol.validateMaximum, GatewayProtocol.require]
  by_cases hmax : maximum ≠ 0 ∧ maximum ≤ absoluteMaxFrameSize
  · rw [if_neg (by omega), if_pos hmax]
    cases GatewayProtocol.readDigits [] stream with
    | rejected e => rfl
    | starved => rfl
    | done digits rest =>
      simp only [decodeCanonicalU32Varint, GatewayProtocol.checkLength]
      cases GatewayProtocol.decodeCanonicalU32Varint digits with
      | error e => rfl
      | ok n =>
        by_cases hzero : n = 0 <;> by_cases hlarge : n > maximum <;>
          simp [hzero, hlarge, Except.mapError, bind, Except.bind, pure, Except.pure, throw,
            throwThe, MonadExceptOf.throw]
  · rw [if_pos (by omega), if_neg hmax]
    rfl

/-- The lengths that are read are those of the frames that `readFrame` takes. -/
lemma readLength_frame {maximum : ℕ} (hmax : ¬ (maximum = 0 ∨ maximum > absoluteMaxFrameSize))
    (frame : InterGatewayFrame) (rest : Bytes) :
    readLength maximum (varint frame.encodedLen ++ rest) = .accepted frame.encodedLen rest ↔
      ¬ (frame.encodedLen = 0 ∨ frame.encodedLen > maximum) := by
  rw [readLength_eq, GatewayProtocol.readLength_accepted (by omega)]
  simp

end GatewayMultihop

namespace GatewayDaemon

namespace ReadFrame

def readLength (maxFrameBytes : ℕ) : ReadFrame → Bytes → LengthPrefix
  | .body length _, stream => .accepted length stream
  | _, [] => .rejected
  | call, byte :: rest =>
    match call.push (fun _ => none) maxFrameBytes byte with
    | .error _ => .rejected
    | .ok (_, next) => readLength maxFrameBytes next rest

variable {maxFrameBytes n : ℕ} {byte : UInt8} {stream rest : Bytes}

def after (value index : ℕ) : ReadFrame := if index = 0 then .first else .digits value (index * 7) index

lemma canonicalPrefixBytes_iff {index : ℕ} (hindex : index < 5) (hn : n < 2 ^ ((index + 1) * 7)) :
    index + 1 = canonicalPrefixBytes n ↔ ¬ (0 < index ∧ n < 2 ^ (index * 7)) := by
  rw [canonicalPrefixBytes]
  interval_cases index <;> split_ifs <;> omega

lemma readLength_digit {value index : ℕ} (h : index = 0 → value = 0) (byte : UInt8) :
    (after value index).readLength maxFrameBytes (byte :: stream) =
      match afterDigit maxFrameBytes byte (value ||| (byte &&& 0x7f).toNat <<< (index * 7))
        ((index + 1) * 7) (index + 1) with
      | .error _ => .rejected
      | .ok next => next.readLength maxFrameBytes stream := by
  by_cases hindex : index = 0
  · subst hindex
    rw [h rfl, after, if_pos rfl, readLength, push, Nat.zero_or, Nat.zero_mul, Nat.shiftLeft_zero]
    · cases afterDigit maxFrameBytes byte (byte &&& 0x7f).toNat 7 1 <;> rfl
    · nofun
  · rw [after, if_neg hindex, readLength, push, Nat.succ_mul]
    · cases afterDigit maxFrameBytes byte _ (index * 7 + 7) (index + 1) <;> rfl
    · nofun

lemma readLength_accepted (hmax : maxFrameBytes ≤ 64 * 1024) {value index : ℕ} (hindex : index < 5)
    (hvalue : value < 2 ^ (index * 7)) :
    (after value index).readLength maxFrameBytes stream = .accepted n rest ↔
      Numeral index value stream n rest ∧ n ≠ 0 ∧ n ≤ maxFrameBytes := by
  induction stream generalizing value index with
  | nil =>
    refine iff_of_false ?_ fun h => Numeral.not_nil h.1
    rw [after]
    split_ifs <;> simp [readLength]
  | cons byte stream ih =>
    have hnext := digit_lt hvalue byte
    have hzero : index = 0 → value = 0 := by
      rintro rfl
      omega
    rw [readLength_digit hzero, Numeral.cons_iff hvalue, afterDigit]
    generalize value ||| (byte &&& 0x7f).toNat <<< (index * 7) = length at hnext
    by_cases hlast : byte &&& 0x80 = 0
    · rw [if_pos hlast, if_neg (by simp [hlast]), ← canonicalPrefixBytes_iff hindex hnext]
      split_ifs with hlength hprefix
      · refine iff_of_false (by nofun) ?_
        rintro ⟨⟨-, rfl, -⟩, hn⟩
        simp [hlast] at hlength
        omega
      · exact iff_of_false (by nofun) fun h => hprefix h.1.1
      · simp only [readLength, LengthPrefix.accepted.injEq]
        constructor
        · rintro ⟨rfl, rfl⟩
          exact ⟨⟨not_not.mp hprefix, rfl, rfl⟩, by omega⟩
        · exact fun h => h.1.2
    · rw [if_neg hlast]
      by_cases hroom : index + 1 < 5
      · rw [if_pos ⟨hlast, hroom⟩, ← ih hroom hnext, after, if_neg (Nat.succ_ne_zero index)]
      · rw [if_neg fun h => hroom h.2, if_pos (.inl hlast)]
        refine iff_of_false (by nofun) fun h => ?_
        obtain rfl : index = 4 := by omega
        have hle := h.1.le (by decide)
        omega

end ReadFrame

-- Without a first byte there is no frame, and `read_frame` returns `Ok(None)`.
def readLength (maxFrameBytes : ℕ) : Bytes → Option LengthPrefix
  | [] => none
  | stream => some (ReadFrame.first.readLength maxFrameBytes stream)

end GatewayDaemon

def Exact {ε : Type} (encode : UInt32 → List UInt8) (decode : List UInt8 → Except ε ℕ) : Prop :=
  ∀ bytes n, decode bytes = .ok n ↔ ∃ value : UInt32, value.toNat = n ∧ encode value = bytes

lemma exact_decode :
    Exact GatewayProtocol.encodeU32Varint GatewayProtocol.decodeCanonicalU32Varint := by
  intro bytes n
  rw [GatewayProtocol.decodeCanonicalU32Varint_eq_ok]
  constructor
  · rintro ⟨rfl, hn⟩
    refine ⟨.ofNat n, UInt32.toNat_ofNat_of_lt' hn, ?_⟩
    rw [GatewayProtocol.encodeU32Varint_eq, UInt32.toNat_ofNat_of_lt' hn]
  · rintro ⟨value, rfl, rfl⟩
    exact ⟨GatewayProtocol.encodeU32Varint_eq value, value.toNat_lt⟩

def Agree (maximum : ℕ) (stream : List UInt8) : Prop :=
  (∃ length rest, GatewayProtocol.readLength maximum stream = .accepted length rest ∧
      GatewayMultihop.readLength maximum stream = .accepted length rest ∧
      GatewayDaemon.readLength maximum stream = some (.accepted length rest)) ∨
    GatewayProtocol.readLength maximum stream = .rejected ∧
      GatewayMultihop.readLength maximum stream = .rejected ∧
      GatewayDaemon.readLength maximum stream = if stream = [] then none else some .rejected

open GatewayDaemon (ReadFrame)

theorem length_prefixes_agree {maximum : ℕ} (h : 1 ≤ maximum ∧ maximum ≤ 64 * 1024)
    (stream : List UInt8) :
    Exact GatewayProtocol.encodeU32Varint GatewayProtocol.decodeCanonicalU32Varint ∧
      Exact GatewayMultihop.encodeU32Varint GatewayMultihop.decodeCanonicalU32Varint ∧
      Agree maximum stream := by
  refine ⟨exact_decode, fun bytes n => ?_, ?_⟩
  · exact GatewayMultihop.decodeCanonicalU32Varint_eq_ok.trans (exact_decode bytes n)
  have hagree : ∀ n rest, GatewayProtocol.readLength maximum stream = .accepted n rest ↔
      ReadFrame.first.readLength maximum stream = .accepted n rest := fun n rest => by
    rw [GatewayProtocol.readLength_accepted ⟨by omega, h.2⟩, ← Numeral.zero_iff]
    exact (ReadFrame.readLength_accepted h.2 (by decide) (by decide)).symm
  rw [Agree, GatewayMultihop.readLength_eq]
  cases hlength : GatewayProtocol.readLength maximum stream with
  | accepted n rest =>
    have hdaemon := (hagree n rest).mp hlength
    refine .inl ⟨n, rest, rfl, rfl, ?_⟩
    cases stream with
    | nil => simp [ReadFrame.readLength] at hdaemon
    | cons byte stream => rw [GatewayDaemon.readLength, hdaemon]; nofun
  | rejected =>
    refine .inr ⟨rfl, rfl, ?_⟩
    cases stream with
    | nil => rfl
    | cons byte stream =>
      rw [if_neg (List.cons_ne_nil _ _), GatewayDaemon.readLength]
      · cases hdaemon : ReadFrame.first.readLength maximum (byte :: stream) with
        | accepted n rest => simp [(hagree n rest).mpr hdaemon] at hlength
        | rejected => rfl
      · nofun

theorem length_prefixes_agree_two : Agree 1024 [0x02, 0x08, 0x01] ∧
    GatewayDaemon.readLength 1024 [0x02, 0x08, 0x01] = some (.accepted 2 [0x08, 0x01]) :=
  ⟨(length_prefixes_agree (by decide) _).2.2, by decide⟩

theorem empty_stream_not_rejected : GatewayProtocol.readLength 1024 [] = .rejected ∧
    GatewayMultihop.readLength 1024 [] = .rejected ∧ GatewayDaemon.readLength 1024 [] = none := by
  decide

end OnionRoute
