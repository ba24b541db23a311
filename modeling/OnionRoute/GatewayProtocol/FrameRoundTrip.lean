import OnionRoute.GatewayProtocol.EnvelopeScan
import OnionRoute.GatewayProtocol.FrameDecoding
import OnionRoute.GatewayProtocol.Sendable

/-! What `encode_frame` writes passes the scan and is read back as the same frame. -/

namespace OnionRoute.GatewayProtocol

open Library Transducer

lemma encodeU32Varint_eq (value : UInt32) : encodeU32Varint value = varint value.toNat := by
  induction hn : value.toNat using Nat.strong_induction_on generalizing value with
  | _ n ih =>
    rw [encodeU32Varint]
    split
    next hle =>
      have hlarge : 128 ≤ value.toNat := hle
      have hbyte : value.toUInt8 ||| 0x80 = UInt8.ofNat (value.toNat % 128 + 128) := by
        rw [or_high, UInt32.toNat_toUInt8]
        congr 2
        omega
      have hrest : (value >>> 7).toNat = value.toNat / 128 := by
        rw [UInt32.toNat_shiftRight, Nat.shiftRight_eq_div_pow]
        rfl
      rw [← hn, varint_cons hlarge, hbyte, ih _ (by omega) (value >>> 7) hrest]
    next hlt =>
      have hsmall : value.toNat < 128 := UInt32.lt_iff_toNat_lt.mp (UInt32.not_le.mp hlt)
      rw [← hn, varint_last hsmall]
      rfl

variable {bytes rest : Bytes} {index value n : ℕ}

lemma canonicalDigits_eq_ok (hvalue : value < 2 ^ (index * 7))
    (hlength : index + bytes.length ≤ maxU32VarintBytes) :
    canonicalDigits index value bytes = .ok n ↔ Numeral index value bytes n [] ∧ n < 2 ^ 32 := by
  induction bytes generalizing index value with
  | nil => exact iff_of_false (by nofun) fun h => Numeral.not_nil h.1
  | cons byte bytes ih =>
    have hfive : maxU32VarintBytes = 5 := rfl
    rw [List.length_cons] at hlength
    have hrest := ih (digit_lt hvalue byte) (by omega)
    rw [Numeral.bounded_cons_iff 32 4 (by decide) hvalue (by omega), ← hrest, canonicalDigits]
    simp only [guard_eq_ok, Nat.shiftLeft_eq 1, one_mul]
    refine and_congr Iff.rfl ?_
    by_cases hlast : byte &&& 0x80 = 0
    · have hleast : (value ||| (byte &&& 0x7f).toNat <<< (index * 7) <
          if index = 0 then 0 else 2 ^ (index * 7)) ↔
          0 < index ∧ value ||| (byte &&& 0x7f).toNat <<< (index * 7) < 2 ^ (index * 7) := by
        split_ifs <;> simp [*, Nat.pos_iff_ne_zero]
      simp only [if_pos hlast, guard_eq_ok, pure_eq_ok, not_not, hleast]
      tauto
    · rw [if_neg hlast, if_neg hlast]

lemma length_varint_le (hn : n < 2 ^ 32) : (varint n).length ≤ maxU32VarintBytes := by
  rw [length_varint_eq]
  exact varintLen_le (by decide) (hn.trans (by decide))

lemma decodeCanonicalU32Varint_eq_ok :
    decodeCanonicalU32Varint bytes = .ok n ↔ bytes = varint n ∧ n < 2 ^ 32 := by
  rw [decodeCanonicalU32Varint, guard_eq_ok, not_or, not_lt]
  constructor
  · rintro ⟨⟨-, hlength⟩, h⟩
    rwa [canonicalDigits_eq_ok (by decide) (by simpa using hlength), Numeral.zero_iff,
      List.append_nil] at h
  · rintro ⟨rfl, hn⟩
    have hlength := length_varint_le hn
    refine ⟨⟨varint_ne_nil n, hlength⟩, ?_⟩
    rw [canonicalDigits_eq_ok (by decide) (by simpa using hlength), Numeral.zero_iff, List.append_nil]
    exact ⟨rfl, hn⟩

section Scan

def Above (low : ℕ) (bytes : Bytes) : Prop :=
  ∃ fields, Envelope bytes fields ∧ ∀ f ∈ fields, low < f.tag

lemma Above.cons {low : ℕ} {f : Field} (hf : f.Allowed) (hlow : low < f.tag) (hlast : f.tag ≤ 4)
    (h : Above f.tag rest) : Above low (f.encode ++ rest) := by
  obtain ⟨fields, ⟨rfl, hallowed, hapart⟩, habove⟩ := h
  refine ⟨f :: fields, ⟨rfl, List.forall_mem_cons.mpr ⟨hf, hallowed⟩, ?_⟩, ?_⟩
  · refine List.pairwise_cons.mpr ⟨fun g hg => ⟨fun h => ?_, fun h => ?_⟩, hapart⟩
    · exact (habove g hg).ne h.1
    · exact absurd (h.1.1.trans hlast) (by decide)
  · exact List.forall_mem_cons.mpr ⟨hlow, fun g hg => hlow.trans (habove g hg)⟩

lemma allowed_delimited {tag : ℕ} (htag : 2 ≤ tag ∧ tag ≤ 4 ∨ 10 ≤ tag ∧ tag ≤ 28)
    (content : Bytes) : Field.Allowed ⟨tag, .delimited content⟩ where
  tag := by dsimp only; omega
  unreserved := by dsimp only; omega
  varint := by dsimp only; omega
  delimited _ := rfl

lemma Above.option {low : ℕ} (hlow : 1 ≤ low) (hlast : low < 4)
    (hbytes : bytes = [] ∨ ∃ content, bytes = delimited (low + 1) content)
    (h : Above (low + 1) rest) : Above low (bytes ++ rest) := by
  obtain rfl | ⟨content, rfl⟩ := hbytes
  · obtain ⟨fields, hfields, habove⟩ := h
    exact ⟨fields, hfields, fun f hf => (Nat.lt_succ_self low).trans (habove f hf)⟩
  · rw [delimited, List.append_assoc (fieldKey _ _)]
    exact .cons (allowed_delimited (.inl (by omega)) content) (Nat.lt_succ_self low) hlast h

lemma above_body (body : Body) : Above 4 body.encode := by
  have htag : firstMessageTag ≤ body.tag ∧ body.tag ≤ lastV1MessageTag := by
    cases body <;> simp [Body.tag, firstMessageTag, lastV1MessageTag]
  refine ⟨[⟨body.tag, .delimited body.content⟩], ⟨?_, ?_, List.pairwise_singleton _ _⟩, ?_⟩
  · rw [List.flatMap_singleton, Field.encode, Body.encode, delimited, List.append_assoc]
    rfl
  · rw [List.forall_mem_singleton]
    exact allowed_delimited (.inr htag) _
  · rw [List.forall_mem_singleton]
    exact lt_of_lt_of_le (by decide) htag.1

lemma above_sequence (hn : n < 2 ^ 64) (h : Above 1 rest) : Above 0 (uintField 1 n ++ rest) := by
  rw [uintField]
  split_ifs
  · obtain ⟨fields, hfields, habove⟩ := h
    exact ⟨fields, hfields, fun f hf => Nat.zero_lt_one.trans (habove f hf)⟩
  · have hencode : fieldKey 1 0 ++ varint n = Field.encode ⟨1, .varint (.ofNat n)⟩ := by
      rw [Field.encode, WireValue.encode, UInt64.toNat_ofNat_of_lt' hn]
      rfl
    rw [hencode]
    exact .cons (allowed_sequence _) Nat.zero_lt_one (show 1 ≤ 4 by decide) h

end Scan

lemma scanGatewayEnvelope_encode {frame : GatewayFrame} {body : Body}
    (hbody : frame.body = some body) (hsequence : frame.sequence ≤ u64Max)
    (hlength : frame.encode.length ≤ absoluteMaxFrameSize) :
    scanGatewayEnvelope frame.encode = .ok () := by
  have hversion : optionField 2 ProtocolVersion.encode frame.version = [] ∨
      ∃ content, optionField 2 ProtocolVersion.encode frame.version = delimited 2 content := by
    cases frame.version with
    | none => exact .inl rfl
    | some version => exact .inr ⟨_, rfl⟩
  have hids : packedField 3 frame.criticalExtensionIds = [] ∨
      ∃ content, packedField 3 frame.criticalExtensionIds = delimited 3 content := by
    rw [packedField]
    split
    next => exact .inl rfl
    next => exact .inr ⟨_, rfl⟩
  have hid : bytesField 4 frame.sessionId = [] ∨
      ∃ content, bytesField 4 frame.sessionId = delimited 4 content := by
    rw [bytesField]
    split
    next => exact .inl rfl
    next => exact .inr ⟨_, rfl⟩
  have hfields : Above 0 frame.encode := by
    rw [GatewayFrame.encode, hbody, Option.elim_some]
    simp only [List.append_assoc]
    exact above_sequence (Nat.lt_succ_of_le hsequence) (.option le_rfl (by decide) hversion
      (.option (by decide) (by decide) hids (.option (by decide) (by decide) hid (above_body body))))
  obtain ⟨fields, hfields, -⟩ := hfields
  exact (scanFields_eq_ok le_rfl (hlength.trans (by decide)) Scanned.nil).mpr
    ⟨fields, hfields, by simp⟩

variable {maximumFrameSize : ℕ}

namespace FrameDecoder

variable {decode : Bytes → Except String GatewayFrame} {frame : GatewayFrame}

lemma run_digits {d : FrameDecoder} (hd : d.expectedBody = none) {xs : Bytes}
    (hxs : ∀ byte ∈ xs, byte &&& 0x80 ≠ 0) (hroom : d.digits.length + xs.length ≤ maxU32VarintBytes) :
    run (byteStep decode) d xs = ([], .ok { d with digits := d.digits ++ xs }) := by
  induction xs generalizing d with
  | nil => simp [run]
  | cons byte xs ih =>
    obtain ⟨hbyte, hrest⟩ := List.forall_mem_cons.mp hxs
    rw [List.length_cons] at hroom
    have hdigit : pushDigit byte d = .ok false { d with digits := d.digits ++ [byte] } := by
      rw [pushDigit, if_neg (by omega)]
      simp only [if_neg hbyte]
    have hrun := ih (d := { d with digits := d.digits ++ [byte] }) hd hrest (by
      rw [List.length_append, List.length_singleton]
      omega)
    rw [run_cons_none (byteStep_digit hd hdigit), hrun]
    simp

lemma run_length {init : Bytes} {last : UInt8}
    (hinit : ∀ byte ∈ init, byte &&& 0x80 ≠ 0) (hlast : last &&& 0x80 = 0)
    (hroom : init.length < maxU32VarintBytes) :
    run (byteStep decode) (fresh maximumFrameSize) (init ++ [last]) =
      match checkLength maximumFrameSize (init ++ [last]) with
      | .error e => ([], .error e)
      | .ok n => ([], .ok { fresh maximumFrameSize with
          digits := init ++ [last]
          expectedBody := some n }) := by
  have hdigits : run (byteStep decode) (fresh maximumFrameSize) init =
      ([], .ok { fresh maximumFrameSize with digits := [] ++ init }) :=
    run_digits rfl hinit (by simpa [fresh] using hroom.le)
  rw [run_append, hdigits, resume_nil, run, byteStep]
  have hne : ¬ init.length = maxU32VarintBytes := by omega
  simp only [fresh, List.nil_append, pushDigit, if_neg hne, if_pos hlast]
  cases checkLength maximumFrameSize (init ++ [last]) with
  | error e => rfl
  | ok n => rfl

lemma run_frame {body : Bytes} (hbody : body ≠ [])
    (hle : body.length ≤ maximumFrameSize) (hmax : maximumFrameSize ≤ absoluteMaxFrameSize) :
    run (byteStep decode) (fresh maximumFrameSize) (varint body.length ++ body) =
      match decodeFrameBytes decode body with
      | .error e => ([], .error e)
      | .ok frame => ([frame], .ok (fresh maximumFrameSize)) := by
  have hpos := List.length_pos_of_ne_nil hbody
  have hsmall : body.length < 2 ^ 32 := (hle.trans hmax).trans_lt (by decide)
  obtain ⟨init, last, hsplit, hinit, hlast⟩ := varint_split body.length
  have hroom : init.length < maxU32VarintBytes := by
    have hdigits := length_varint_le hsmall
    rw [hsplit, List.length_append, List.length_singleton] at hdigits
    omega
  have hcheck : checkLength maximumFrameSize (varint body.length) = .ok body.length :=
    checkLength_eq_ok.mpr ⟨decodeCanonicalU32Varint_eq_ok.mpr ⟨rfl, hsmall⟩, hpos.ne', hle⟩
  rw [hsplit] at hcheck ⊢
  rw [run_append, run_length hinit hlast hroom, hcheck, resume_nil,
    run_full rfl hbody (by simp [fresh])]
  cases hdecode : decodeFrameBytes decode body <;> simp [fresh, reset, hdecode]

lemma decodeFrameBytes_encode {body : Body} (hbody : frame.body = some body)
    (hsequence : frame.sequence ≤ u64Max) (hpos : frame.encode ≠ [])
    (hle : frame.encode.length ≤ absoluteMaxFrameSize) (hdecode : decode frame.encode = .ok frame) :
    decodeFrameBytes decode frame.encode = .ok frame := by
  simp only [decodeFrameBytes, guard_eq_ok, bind_eq_ok, not_lt, gt_iff_lt]
  refine ⟨hpos, hle, (), scanGatewayEnvelope_encode hbody hsequence hle, frame, ?_, ?_, rfl⟩
  · rw [hdecode]
    rfl
  · simp [hbody]

structure Transmits (decode : Bytes → Except String GatewayFrame) (frame : GatewayFrame) : Prop where
  body : frame.body.isSome
  sequence : frame.sequence ≤ u64Max
  inverse : decode frame.encode = .ok frame

lemma run_encodeFrame (hmax : maximumFrameSize ≤ absoluteMaxFrameSize)
    (hframe : Transmits decode frame)
    (h : encodeFrame frame maximumFrameSize = .ok bytes) :
    run (byteStep decode) (fresh maximumFrameSize) bytes =
    ([frame], .ok (fresh maximumFrameSize)) := by
  have habsolute : absoluteMaxFrameSize = 65536 := rfl
  simp only [encodeFrame, bind_eq_ok, guard_eq_ok, pure_eq_ok] at h
  obtain ⟨_, hsize, -, rfl⟩ := h
  obtain ⟨hpos, hle⟩ := (checkFrameSize_eq_ok hmax).mp hsize
  obtain ⟨body, hbody⟩ := Option.isSome_iff_exists.mp hframe.body
  rw [← frame.length_encode] at hpos hle
  have hne : frame.encode ≠ [] := fun hnil => hpos (by rw [hnil, List.length_nil])
  have hlength : (UInt32.ofNat frame.encodedLen).toNat = frame.encode.length := by
    rw [UInt32.toNat_ofNat', ← frame.length_encode]
    omega
  rw [encodeU32Varint_eq, hlength, run_frame hne hle hmax,
    decodeFrameBytes_encode hbody hframe.sequence hne (hle.trans hmax) hframe.inverse]

lemma run_encodings {frames : List GatewayFrame} {encodings : List Bytes}
    (hmax : maximumFrameSize ≤ absoluteMaxFrameSize) (hframes : ∀ f ∈ frames, Transmits decode f)
    (h : frames.mapM (encodeFrame · maximumFrameSize) = .ok encodings) :
    run (byteStep decode) (fresh maximumFrameSize) encodings.flatten =
      (frames, .ok (fresh maximumFrameSize)) := by
  induction frames generalizing encodings with
  | nil =>
    rw [List.mapM_nil, pure_eq_ok] at h
    rw [← h]
    rfl
  | cons frame frames ih =>
    obtain ⟨hframe, hrest⟩ := List.forall_mem_cons.mp hframes
    simp only [List.mapM_cons, bind_eq_ok, pure_eq_ok] at h
    obtain ⟨bytes, hbytes, rest, hmap, rfl⟩ := h
    rw [List.flatten_cons, run_append, run_encodeFrame hmax hframe hbytes, resume]
    simp only [ih hrest hmap, List.singleton_append]

lemma new_eq_ok {d : FrameDecoder} : new maximumFrameSize = .ok d ↔
    (maximumFrameSize ≠ 0 ∧ maximumFrameSize ≤ absoluteMaxFrameSize) ∧ d = fresh maximumFrameSize :=
    by
  simp only [new, validateMaximum, bind_eq_ok, require_eq_ok, pure_eq_ok, exists_const, fresh]
  rw [@eq_comm _ d]

end FrameDecoder

open FrameDecoder

structure Decodes (decode : Bytes → Except String GatewayFrame) (maximumFrameSize : ℕ)
    (d : FrameDecoder) : Prop where
  chunks : ∀ chunks, d.feedChunks decode chunks = d.feed decode chunks.flatten
  frames : ∀ frames encodings, (∀ frame ∈ frames, Transmits decode frame) →
    frames.mapM (encodeFrame · maximumFrameSize) = .ok encodings →
    d.feed decode encodings.flatten = (frames, .ok d)
  bounded : ∀ calls : List FrameDecoder.Call, (calls.foldl (act decode) d).Bounded

theorem decoder_decodes {decode : Bytes → Except String GatewayFrame} {maximumFrameSize : ℕ}
    {d : FrameDecoder} (h : FrameDecoder.new maximumFrameSize = .ok d) :
    Decodes decode maximumFrameSize d := by
  obtain ⟨⟨-, hmax⟩, rfl⟩ := new_eq_ok.mp h
  have hsound := sound_fresh maximumFrameSize
  refine ⟨feedChunks_eq_feed hsound, ?_, fun calls => (hsound.acts calls).bounded⟩
  intro frames encodings hframes hencodings
  rw [feed_eq_run hsound]
  exact run_encodings hmax hframes hencodings

namespace Sample

def ping : GatewayFrame where
  sequence := 1
  version := some ⟨1, 0⟩
  criticalExtensionIds := []
  sessionId := []
  body := some (.ping ⟨[0, 1, 2, 3, 4, 5, 6, 7]⟩)

def pingBytes : Bytes :=
  [0x13, 0x08, 0x01, 0x12, 0x02, 0x08, 0x01, 0xca, 0x01, 0x0a, 0x0a, 0x08, 0x00, 0x01, 0x02, 0x03,
    0x04, 0x05, 0x06, 0x07]

def decodePing (bytes : Bytes) : Except String GatewayFrame :=
  if bytes = ping.encode then .ok ping else .error "unknown"

end Sample

open Sample in
theorem decoder_decodes_ping :
    Decodes decodePing 1024 (fresh 1024) ∧
      (fresh 1024).feed decodePing (pingBytes ++ pingBytes) =
        ([ping, ping], .ok (fresh 1024)) := by
  have hdecodes : Decodes decodePing 1024 (fresh 1024) :=
    decoder_decodes (new_eq_ok.mpr ⟨by decide, rfl⟩)
  refine ⟨hdecodes, hdecodes.frames _ [pingBytes, pingBytes] ?_ (by decide +kernel)⟩
  intro frame hframe
  obtain rfl : frame = ping := by simpa using hframe
  exact ⟨rfl, by decide, by simp [decodePing]⟩

end OnionRoute.GatewayProtocol
