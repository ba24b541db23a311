import OnionRoute.GatewayProtocol.Framing
import OnionRoute.GatewayProtocol.MessageSizes

/-! The scan of an envelope accepts exactly the sequences of fields that the format allows. -/

namespace OnionRoute.GatewayProtocol

open Library

variable {bytes rest : Bytes} {index value n : ℕ}

lemma nextByte_bind {α : Type} (byte : UInt8) (f : UInt8 → WireM α) :
    (nextByte >>= f) (byte :: bytes) = f byte bytes := rfl

lemma wireDigits_eq_ok {left : ℕ} (hvalue : value < 2 ^ (index * 7)) (hleft : index + left = 10) :
    wireDigits index value left bytes = .ok n rest ↔
      Numeral index value bytes n rest ∧ n < 2 ^ 64 := by
  induction left generalizing index value bytes with
  | zero =>
    obtain rfl : index = 10 := hleft
    refine iff_of_false (by nofun) fun h => ?_
    have hle := h.1.le (by decide)
    omega
  | succ left ih =>
    cases bytes with
    | nil => exact iff_of_false (by nofun) fun h => Numeral.not_nil h.1
    | cons byte bytes =>
      have hrest := @ih bytes _ _ (digit_lt hvalue byte) (by omega)
      rw [Numeral.bounded_cons_iff 64 9 (by decide) hvalue (by omega), ← hrest, wireDigits,
        nextByte_bind]
      simp only [state_guard_eq_ok, Nat.shiftLeft_eq 1, one_mul]
      refine and_congr Iff.rfl ?_
      by_cases hlast : byte &&& 0x80 = 0
      · simp only [if_pos hlast, state_guard_eq_ok, state_pure_eq_ok]
      · rw [if_neg hlast, if_neg hlast]

lemma readWireVarint_eq_ok :
    readWireVarint bytes = .ok n rest ↔ bytes = varint n ++ rest ∧ n < 2 ^ 64 := by
  rw [readWireVarint, wireDigits_eq_ok (by decide) rfl, Numeral.zero_iff]

inductive WireValue
  | varint (n : UInt64)
  | fixed64 (bytes : List.Vector UInt8 8)
  | delimited (content : Bytes)
  | fixed32 (bytes : List.Vector UInt8 4)

namespace WireValue

def wireType : WireValue → ℕ
  | varint _ => 0
  | fixed64 _ => 1
  | delimited _ => 2
  | fixed32 _ => 5

def encode : WireValue → Bytes
  | varint n => Library.varint n.toNat
  | fixed64 bytes => bytes.toList
  | delimited content => Library.varint content.length ++ content
  | fixed32 bytes => bytes.toList

end WireValue

structure Field where
  tag : ℕ
  value : WireValue

namespace Field

def encode (f : Field) : Bytes := fieldKey f.tag f.value.wireType ++ f.value.encode

def IsBody (f : Field) : Prop := firstMessageTag ≤ f.tag ∧ f.tag ≤ lastV1MessageTag

structure Allowed (f : Field) : Prop where
  tag : 1 ≤ f.tag ∧ f.tag ≤ 2 ^ 32 - 1
  unreserved : ¬ (5 ≤ f.tag ∧ f.tag ≤ 9) ∧ ¬ (29 ≤ f.tag ∧ f.tag ≤ 63)
  varint : f.tag = 1 → f.value.wireType = 0
  delimited : f.tag = 2 ∨ f.tag = 4 ∨ f.IsBody → f.value.wireType = 2

def Apart (f g : Field) : Prop :=
  ¬ (f.tag = g.tag ∧ (f.tag = 1 ∨ f.tag = 2 ∨ f.tag = 4)) ∧ ¬ (f.IsBody ∧ g.IsBody)

end Field

structure Envelope (bytes : Bytes) (fields : List Field) : Prop where
  split : bytes = fields.flatMap Field.encode
  allowed : ∀ f ∈ fields, f.Allowed
  apart : fields.Pairwise Field.Apart

lemma key_tag {tag wireType : ℕ} (hwire : wireType < 8) : (tag * 8 + wireType) >>> 3 = tag := by
  rw [Nat.shiftRight_eq_div_pow]
  omega

lemma key_wireType {tag wireType : ℕ} (hwire : wireType < 8) :
    (tag * 8 + wireType) &&& 0x07 = wireType := by
  rw [show (0x07 : ℕ) = 2 ^ 3 - 1 from rfl, Nat.and_two_pow_sub_one_eq_mod]
  omega

lemma key_split (key : ℕ) : key = key >>> 3 * 8 + (key &&& 0x07) := by
  rw [show (0x07 : ℕ) = 2 ^ 3 - 1 from rfl, Nat.and_two_pow_sub_one_eq_mod, Nat.shiftRight_eq_div_pow]
  omega

lemma WireValue.wireType_lt (value : WireValue) : value.wireType < 8 := by
  cases value <;> simp [wireType]

def seenAfter (tag : ℕ) (seen : List ℕ) : List ℕ :=
  if tag ≤ lastV1MessageTag ∧ tag ≠ 3 then tag :: seen else seen

def bodyAfter (tag : ℕ) (bodyTag : Option ℕ) : Option ℕ :=
  if firstMessageTag ≤ tag ∧ tag ≤ lastV1MessageTag then some tag else bodyTag

lemma expectedWireType_iff {tag wireType : ℕ} :
    (∃ expected, expectedWireType tag = .ok expected ∧ ¬ expected.any (· ≠ wireType) = true) ↔
      (¬ (5 ≤ tag ∧ tag ≤ 9) ∧ ¬ (29 ≤ tag ∧ tag ≤ 63)) ∧ (tag = 1 → wireType = 0) ∧
        (tag = 2 ∨ tag = 4 ∨ 10 ≤ tag ∧ tag ≤ 28 → wireType = 2) := by
  have hfirst : firstMessageTag = 10 := rfl
  have hlast : lastV1MessageTag = 28 := rfl
  have hreserved : lastReservedMessageTag = 63 := rfl
  generalize hresult : expectedWireType tag = result
  rw [expectedWireType] at hresult
  split_ifs at hresult <;> subst hresult <;>
    simp [pure, Except.pure, throw, throwThe, MonadExceptOf.throw] <;> omega

variable {total : ℕ} {seen : List ℕ} {bodyTag : Option ℕ} {next : List ℕ × Option ℕ} {before : List Field}

lemma scanFields_cons (hne : bytes ≠ []) : scanFields total seen bodyTag bytes = .ok () ↔
    ∃ next rest, scanField total seen bodyTag bytes = .ok next rest ∧
      scanFields total next.1 next.2 rest = .ok () := by
  rw [scanFields, if_neg hne]
  split
  next hscan => simp [hscan]
  next hscan => simp [hscan, throw_eq_ok]

structure Scanned (before : List Field) (seen : List ℕ) (bodyTag : Option ℕ) : Prop where
  seen : ∀ tag, tag ∈ seen ↔ (tag ≤ lastV1MessageTag ∧ tag ≠ 3) ∧ ∃ f ∈ before, f.tag = tag
  body : bodyTag.isSome ↔ ∃ f ∈ before, f.IsBody

lemma Scanned.nil : Scanned [] [] none := ⟨by simp, by simp⟩

lemma Scanned.fresh_iff (h : Scanned before seen bodyTag) {f : Field}
    (hf : f.Allowed) : (¬ ((f.tag ≤ lastV1MessageTag ∧ f.tag ≠ 3) ∧ f.tag ∈ seen) ∧
      ¬ (f.IsBody ∧ bodyTag.isSome)) ↔ ∀ g ∈ before, g.Apart f := by
  have hfirst : firstMessageTag = 10 := rfl
  have hlast : lastV1MessageTag = 28 := rfl
  have htag := hf.tag
  have hunreserved := hf.unreserved
  rw [h.seen, h.body]
  constructor
  · rintro ⟨hnew, hone⟩ g hg
    refine ⟨fun hsame => hnew ?_, fun hboth => hone ⟨hboth.2, g, hg, hboth.1⟩⟩
    exact ⟨by omega, by omega, g, hg, hsame.1⟩
  · intro hapart
    constructor
    · rintro ⟨hsingle, -, g, hg, htag'⟩
      obtain ⟨hsame, hone⟩ := hapart g hg
      simp only [Field.IsBody] at hone
      omega
    · rintro ⟨hbody, g, hg, hg'⟩
      exact (hapart g hg).2 ⟨hg', hbody⟩

lemma Scanned.cons (h : Scanned before seen bodyTag) (f : Field) :
    Scanned (f :: before) (seenAfter f.tag seen) (bodyAfter f.tag bodyTag) := by
  constructor
  · intro tag
    rw [seenAfter, List.exists_mem_cons_iff]
    split_ifs with hsingle
    · rw [List.mem_cons, h.seen]
      grind
    · rw [h.seen]
      grind
  · rw [List.exists_mem_cons_iff, ← h.body, bodyAfter]
    split_ifs with hbody <;> simp [Field.IsBody, hbody]

section Scan

variable (hbytes : bytes.length ≤ total) (htotal : total ≤ usizeMax)

include hbytes htotal

lemma skipBytes_eq_ok {length : ℕ} {u : Unit} : skipBytes total length bytes = .ok u rest ↔
    ∃ content : Bytes, content.length = length ∧ bytes = content ++ rest := by
  simp only [skipBytes, state_bind_eq_ok, state_get_eq_ok, state_guard_eq_ok, state_set_eq_ok, not_lt,
    gt_iff_lt]
  constructor
  · rintro ⟨_, _, ⟨rfl, rfl⟩, -, hlength, rfl⟩
    exact ⟨bytes.take length, List.length_take_of_le hlength, (List.take_append_drop _ _).symm⟩
  · rintro ⟨content, rfl, rfl⟩
    refine ⟨_, _, ⟨rfl, rfl⟩, ?_, by simp, List.drop_left⟩
    rw [List.length_append] at hbytes ⊢
    omega

lemma skipWireValue_eq_ok {wireType : ℕ} {u : Unit} :
    skipWireValue total wireType bytes = .ok u rest ↔
      ∃ value : WireValue, value.wireType = wireType ∧ bytes = value.encode ++ rest := by
  have hmax : usizeMax < 2 ^ 64 := by decide
  have hfixed : ∀ length, skipBytes total length bytes = .ok u rest ↔
      ∃ content : List.Vector UInt8 length, bytes = content.toList ++ rest := by
    intro length
    rw [skipBytes_eq_ok hbytes htotal]
    constructor
    · rintro ⟨content, hlength, h⟩
      exact ⟨⟨content, hlength⟩, h⟩
    · rintro ⟨content, h⟩
      exact ⟨content.toList, content.2, h⟩
  unfold skipWireValue
  split
  next =>
    have hread : discard readWireVarint bytes = .ok u rest ↔ ∃ n, readWireVarint bytes = .ok n rest := by
      simp only [discard, Functor.discard, Functor.mapConst, EStateM.map, Function.comp]
      cases readWireVarint bytes <;> simp
    simp only [hread, readWireVarint_eq_ok]
    constructor
    · rintro ⟨n, h, hn⟩
      refine ⟨.varint (.ofNat n), rfl, ?_⟩
      rwa [WireValue.encode, UInt64.toNat_ofNat_of_lt' hn]
    · rintro ⟨value, hvalue, h⟩
      cases value <;> cases hvalue
      exact ⟨_, h, UInt64.toNat_lt _⟩
  next =>
    rw [hfixed]
    constructor
    · rintro ⟨content, h⟩
      exact ⟨.fixed64 content, rfl, h⟩
    · rintro ⟨value, hvalue, h⟩
      cases value <;> cases hvalue
      exact ⟨_, h⟩
  next =>
    simp only [state_bind_eq_ok, readWireVarint_eq_ok]
    constructor
    · rintro ⟨length, middle, ⟨rfl, -⟩, hskip⟩
      obtain ⟨content, rfl, rfl⟩ := (skipBytes_eq_ok (by
        rw [List.length_append] at hbytes
        omega) htotal).mp hskip
      exact ⟨.delimited content, rfl, (List.append_assoc _ _ _).symm⟩
    · rintro ⟨value, hvalue, rfl⟩
      cases value <;> cases hvalue
      rename_i content
      simp only [WireValue.encode, List.length_append] at hbytes
      refine ⟨content.length, content ++ rest, ⟨List.append_assoc _ _ _, by omega⟩, ?_⟩
      exact (skipBytes_eq_ok (by rw [List.length_append]; omega) htotal).mpr ⟨content, rfl, rfl⟩
  next =>
    rw [hfixed]
    constructor
    · rintro ⟨content, h⟩
      exact ⟨.fixed32 content, rfl, h⟩
    · rintro ⟨value, hvalue, h⟩
      cases value <;> cases hvalue
      exact ⟨_, h⟩
  next h0 h1 h2 h5 =>
    refine iff_of_false (fun h => (by cases h)) ?_
    rintro ⟨value, rfl, -⟩
    cases value <;> simp_all [WireValue.wireType]

lemma scanField_eq_ok : scanField total seen bodyTag bytes = .ok next rest ↔
    ∃ f : Field, bytes = f.encode ++ rest ∧ f.Allowed ∧
      ¬ ((f.tag ≤ lastV1MessageTag ∧ f.tag ≠ 3) ∧ f.tag ∈ seen) ∧
      ¬ (f.IsBody ∧ bodyTag.isSome) ∧ next = (seenAfter f.tag seen, bodyAfter f.tag bodyTag) := by
  simp only [scanField, state_bind_eq_ok, state_guard_eq_ok, readWireVarint_eq_ok]
  constructor
  · rintro ⟨key, middle, ⟨rfl, hkey⟩, hlarge, hzero, hfield⟩
    cases hexpected : expectedWireType (key >>> 3) with
    | error e =>
      rw [hexpected] at hfield
      cases hfield
    | ok expected =>
      simp only [hexpected, state_guard_eq_ok, state_bind_eq_ok, state_pure_eq_ok] at hfield
      obtain ⟨hmatch, hnew, hone, _, last, hskip, rfl, rfl⟩ := hfield
      rw [List.length_append] at hbytes
      obtain ⟨value, hvalue, rfl⟩ := (skipWireValue_eq_ok (by omega) htotal).mp hskip
      obtain ⟨hunreserved, hvarint, hdelimited⟩ := expectedWireType_iff.mp ⟨expected, hexpected, hmatch⟩
      refine ⟨⟨key >>> 3, value⟩, ?_, ⟨⟨Nat.pos_of_ne_zero hzero, not_lt.mp hlarge⟩, hunreserved,
        fun h => hvalue.trans (hvarint h), fun h => hvalue.trans (hdelimited h)⟩, ?_, ?_, ?_⟩
      · rw [Field.encode, fieldKey, hvalue, ← key_split, List.append_assoc]
      · simpa using hnew
      · simpa [Field.IsBody] using hone
      · simp [seenAfter, bodyAfter]
  · rintro ⟨f, rfl, hf, hnew, hone, rfl⟩
    have hwire := f.value.wireType_lt
    have hlarge := hf.tag.2
    obtain ⟨expected, hexpected, hmatch⟩ :=
      expectedWireType_iff.mpr ⟨hf.unreserved, hf.varint, hf.delimited⟩
    refine ⟨_, _, ⟨List.append_assoc _ _ _, by omega⟩, ?_⟩
    rw [key_tag hwire, key_wireType hwire, hexpected]
    refine ⟨not_lt.mpr hlarge, Nat.ne_of_gt hf.tag.1, ?_⟩
    simp only [state_guard_eq_ok, state_bind_eq_ok, state_pure_eq_ok]
    refine ⟨hmatch, by simpa using hnew, ?_, (), rest, ?_, by simp [seenAfter, bodyAfter], rfl⟩
    · simpa [Field.IsBody] using hone
    · simp only [Field.encode, List.length_append] at hbytes
      exact (skipWireValue_eq_ok (by rw [List.length_append]; omega) htotal).mpr ⟨f.value, rfl, rfl⟩

lemma scanFields_eq_ok (h : Scanned before seen bodyTag) :
    scanFields total seen bodyTag bytes = .ok () ↔
      ∃ fields, Envelope bytes fields ∧ ∀ f ∈ before, ∀ g ∈ fields, f.Apart g := by
  induction hn : bytes.length using Nat.strong_induction_on generalizing bytes seen bodyTag before with
  | _ n ih =>
    by_cases hne : bytes = []
    · subst hne
      rw [scanFields, if_pos rfl]
      exact iff_of_true rfl ⟨[], ⟨rfl, by simp, .nil⟩, by simp⟩
    · rw [scanFields_cons hne]
      constructor
      · rintro ⟨next, rest, hfield, hrest⟩
        have hless := scanField_lt hfield
        obtain ⟨f, rfl, hf, hnew, hone, rfl⟩ := (scanField_eq_ok hbytes htotal).mp hfield
        obtain ⟨fields, hfields, hapart⟩ :=
          (ih rest.length (hn ▸ hless) (hless.le.trans hbytes) (h.cons f) rfl).mp hrest
        have hbefore := (h.fresh_iff hf).mp ⟨hnew, hone⟩
        rw [List.forall_mem_cons] at hapart
        refine ⟨f :: fields, ⟨?_, ?_, ?_⟩, ?_⟩
        · rw [List.flatMap_cons, ← hfields.split]
        · exact List.forall_mem_cons.mpr ⟨hf, hfields.allowed⟩
        · exact List.pairwise_cons.mpr ⟨hapart.1, hfields.apart⟩
        · exact fun g hg => List.forall_mem_cons.mpr ⟨hbefore g hg, hapart.2 g hg⟩
      · rintro ⟨fields, hfields, hbefore⟩
        obtain ⟨hsplit, hallowed, hapart⟩ := hfields
        cases fields with
        | nil => exact absurd hsplit hne
        | cons f fields =>
          rw [List.forall_mem_cons] at hallowed
          rw [List.pairwise_cons] at hapart
          rw [List.flatMap_cons] at hsplit
          obtain ⟨hnew, hone⟩ := (h.fresh_iff hallowed.1).mpr fun g hg => hbefore g hg f (.head _)
          have hfield := (scanField_eq_ok hbytes htotal).mpr
            ⟨f, hsplit, hallowed.1, hnew, hone, rfl⟩
          have hless := scanField_lt hfield
          refine ⟨_, _, hfield, (ih _ (hn ▸ hless) (hless.le.trans hbytes) (h.cons f) rfl).mpr ?_⟩
          refine ⟨fields, ⟨rfl, hallowed.2, hapart.2⟩, List.forall_mem_cons.mpr ⟨hapart.1, ?_⟩⟩
          exact fun g hg g' hg' => hbefore g hg g' (.tail _ hg')

end Scan

lemma allowed_sequence (n : UInt64) : Field.Allowed ⟨1, .varint n⟩ where
  tag := ⟨le_rfl, (by decide : 1 ≤ 2 ^ 32 - 1)⟩
  unreserved := by simp
  varint _ := rfl
  delimited := by simp [Field.IsBody, firstMessageTag]

theorem scanGatewayEnvelope_iff (h : bytes.length ≤ usizeMax) :
    scanGatewayEnvelope bytes = .ok () ↔ ∃ fields, Envelope bytes fields := by
  rw [scanGatewayEnvelope, scanFields_eq_ok le_rfl h Scanned.nil]
  simp

/-- The sequence, the version, a field of no known tag, the session id and a ping. -/
def pingFields : List Field :=
  [⟨1, .varint 300⟩, ⟨2, .delimited [0x08, 0x01]⟩, ⟨70, .fixed32 ⟨[1, 2, 3, 4], rfl⟩⟩,
    ⟨4, .delimited (List.replicate 16 7)⟩, ⟨25, .delimited (0x0a :: 8 :: List.replicate 8 9)⟩]

theorem scanGatewayEnvelope_ping : scanGatewayEnvelope ([0x08, 0xac, 0x02, 0x12, 0x02, 0x08, 0x01] ++
    [0xb5, 0x04, 1, 2, 3, 4] ++ 0x22 :: 16 :: List.replicate 16 7 ++
    [0xca, 0x01, 10, 0x0a, 8] ++ List.replicate 8 9) = .ok () := by
  have hallowed : ∀ f ∈ pingFields, (1 ≤ f.tag ∧ f.tag ≤ 2 ^ 32 - 1) ∧
      (¬ (5 ≤ f.tag ∧ f.tag ≤ 9) ∧ ¬ (29 ≤ f.tag ∧ f.tag ≤ 63)) ∧
      (f.tag = 1 → f.value.wireType = 0) ∧
      (f.tag = 2 ∨ f.tag = 4 ∨ firstMessageTag ≤ f.tag ∧ f.tag ≤ lastV1MessageTag →
        f.value.wireType = 2) := by decide
  refine (scanGatewayEnvelope_iff (by decide)).mpr ⟨pingFields, by decide +kernel, ?_, ?_⟩
  · intro f hf
    obtain ⟨htag, hunreserved, hvarint, hdelimited⟩ := hallowed f hf
    exact ⟨htag, hunreserved, hvarint, hdelimited⟩
  · simp [pingFields, Field.Apart, Field.IsBody, firstMessageTag, lastV1MessageTag]

end OnionRoute.GatewayProtocol
