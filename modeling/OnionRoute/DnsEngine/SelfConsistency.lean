import Mathlib.Data.Nat.Bitwise
import OnionRoute.DnsEngine.QueryLayout

/-! Synthetic answers against the check of answers. -/

namespace OnionRoute.DnsEngine

open Library CommonTypes NameReader
open PacketEngine (DnsQuery Ipv4Addr maxDnsMessageBytes)

namespace NameReader

variable {wire : Bytes} {r : NameReader} {result : String × ℕ}

lemma Reads.expandedLen_le (h : Reads wire r result) : r.expandedLen ≤ 253 := by
  induction h with
  | done hstep => exact (step_eq_done hstep).2.2.1
  | more hstep _ ih =>
    cases moves_of_step hstep with
    | jump => exact ih
    | label => exact (Nat.le_add_right _ _).trans ((Nat.le_add_right _ _).trans ih)

lemma Reads.end_bounds (h : Reads wire r result) (hend : r.consumedEnd = none) :
    r.cursor ≤ result.2 ∧ result.2 + r.expandedLen ≤ r.cursor + 255 := by
  induction h with
  | done hstep =>
    obtain ⟨-, -, hlen, rfl⟩ := step_eq_done hstep
    rw [hend]
    simp only [Option.getD_none]
    omega
  | @more r next result hstep hreads ih =>
    have hlen := hreads.expandedLen_le
    cases moves_of_step hstep with
    | jump =>
      have hfinish : result.2 = r.cursor + 2 := hreads.end_of_jumped (by rw [hend]; rfl)
      simp only at hlen
      omega
    | label =>
      have hle := ih hend
      simp only at hle
      omega

lemma step_of_moves {next : NameReader} (h : Moves wire r next) : r.step wire = .ok (.inl next) := by
  cases h with
  | jump length second hlength hpointer hsecond hoffset hjumps =>
    have hvalid : ¬ (wire.length ≤ (length &&& 0x3f).toNat * 256 + second.toNat ∨ 16 ≤ r.jumps) := by
      omega
    simp only [step, hlength, hpointer, hsecond, hvalid, if_true, if_false]
  | label length hlength hlow hne hshort hend htext =>
    have hvalid : ¬ (63 < length.toNat ∨ wire.length < r.cursor + 1 + length.toNat) := by omega
    simp only [step, hlength, hlow, hne, hvalid, htext, if_false, ne_eq, not_true,
      show ¬ (0 : UInt8) = 0xc0 from by decide]

/-- The labels and pointers of the name at an offset stand on octets of `p`. -/
inductive Within (p : ℕ → Prop) (wire : Bytes) : ℕ → Prop
  | root {cursor : ℕ} : wire[cursor]? = some 0 → p cursor → Within p wire cursor
  | pointer {cursor : ℕ} {a b : UInt8} : wire[cursor]? = some a → a &&& 0xc0 = 0xc0 →
      wire[cursor + 1]? = some b → p cursor → p (cursor + 1) →
      Within p wire ((a &&& 0x3f).toNat * 256 + b.toNat) → Within p wire cursor
  | label {cursor : ℕ} {length : UInt8} : wire[cursor]? = some length → length &&& 0xc0 = 0 →
      length ≠ 0 → (∀ i, i ≤ length.toNat → p (cursor + i)) →
      Within p wire (cursor + 1 + length.toNat) → Within p wire cursor

section Same

variable {p : ℕ → Prop} {other : Bytes}

lemma Within.first {cursor : ℕ} (h : Within p wire cursor) : p cursor ∧ cursor < wire.length := by
  cases h with
  | root hzero hp => exact ⟨hp, (List.getElem?_eq_some_iff.mp hzero).1⟩
  | pointer ha _ _ hp => exact ⟨hp, (List.getElem?_eq_some_iff.mp ha).1⟩
  | label hlength _ _ hp => exact ⟨hp 0 (Nat.zero_le _), (List.getElem?_eq_some_iff.mp hlength).1⟩

lemma lt_length_of_same {i : ℕ} (hsame : other[i]? = wire[i]?) (h : i < wire.length) :
    i < other.length := by
  rw [List.getElem?_eq_getElem h] at hsame
  exact (List.getElem?_eq_some_iff.mp hsame).1

lemma Within.move (hsame : ∀ i, p i → other[i]? = wire[i]?) {next : NameReader}
    (hw : Within p wire r.cursor) (hm : Moves wire r next) :
    Moves other r next ∧ Within p wire next.cursor := by
  have hread : other[r.cursor]? = wire[r.cursor]? := hsame _ hw.first.1
  cases hm with
  | jump length second hlength hpointer hsecond hoffset hjumps =>
    cases hw with
    | root hzero =>
      obtain rfl := Option.some.inj (hzero.symm.trans hlength)
      exact absurd hpointer (by decide)
    | label hlow hzero =>
      obtain rfl := Option.some.inj (hlow.symm.trans hlength)
      exact absurd (hzero.symm.trans hpointer) (by decide)
    | pointer ha _ hb _ hp hrest =>
      obtain rfl := Option.some.inj (ha.symm.trans hlength)
      obtain rfl := Option.some.inj (hb.symm.trans hsecond)
      have htarget := lt_length_of_same (hsame _ hrest.first.1) hoffset
      exact ⟨.jump _ _ (hread.trans hlength) hpointer ((hsame _ hp).trans hsecond) htarget hjumps,
        hrest⟩
  | label length hlength hlow hne hshort hend htext =>
    cases hw with
    | root hzero => exact absurd (Option.some.inj (hzero.symm.trans hlength)).symm hne
    | pointer ha hpointer =>
      obtain rfl := Option.some.inj (ha.symm.trans hlength)
      exact absurd (hlow.symm.trans hpointer) (by decide)
    | label hl _ _ hp hrest =>
      obtain rfl := Option.some.inj (hlength.symm.trans hl)
      have htake : (other.drop (r.cursor + 1)).take length.toNat =
          (wire.drop (r.cursor + 1)).take length.toNat := by
        refine List.ext_getElem? fun i => ?_
        by_cases hi : i < length.toNat
        · rw [List.getElem?_take_of_lt hi, List.getElem?_take_of_lt hi, List.getElem?_drop,
            List.getElem?_drop, Nat.add_assoc]
          exact hsame _ (hp (1 + i) (by omega))
        · rw [List.getElem?_take_eq_none (not_lt.mp hi), List.getElem?_take_eq_none (not_lt.mp hi)]
      have hlast := lt_length_of_same (hsame _ (hp length.toNat le_rfl)) (by omega)
      have hmove := @Moves.label other r length (hread.trans hlength) hlow hne hshort (by omega)
        (htake ▸ htext)
      rw [htake] at hmove
      exact ⟨hmove, hrest⟩

lemma Reads.of_within (hsame : ∀ i, p i → other[i]? = wire[i]?) (h : Reads wire r result)
    (hw : Within p wire r.cursor) : Reads other r result := by
  induction h with
  | done hstep =>
    obtain ⟨hzero, hdone⟩ := step_eq_done hstep
    exact (reads_root ((hsame _ hw.first.1).trans hzero)).mpr hdone
  | more hstep _ ih =>
    obtain ⟨hmove, hrest⟩ := hw.move hsame (moves_of_step hstep)
    exact .more (step_of_moves hmove) (ih hrest)

end Same

end NameReader

def reply (query : Bytes) (questionEnd : ℕ) (answers : UInt16) (answer : Bytes) : Bytes :=
  responseHeader query answers ++ (questionBytes query questionEnd ++ answer)

inductive Answer (config : SyntheticDnsConfig) : UInt16 → UInt16 → Bytes → Prop
  | a (address : Ipv4Addr) : Answer config typeA 1 (aRecord address (Cache.advertisedTtl config))
  | aaaa : Answer config typeAaaa 0 []

section Octets

variable {front back : Bytes} {n : ℕ}

lemma getD_append_right (i : ℕ) (h : front.length = n) :
    (front ++ back).getD (n + i) 0 = back.getD i 0 := by
  rw [List.getD_eq_getElem?_getD, List.getElem?_append_right (by omega), ← h,
    Nat.add_sub_cancel_left, ← List.getD_eq_getElem?_getD]

lemma u16At_append_right (i : ℕ) (h : front.length = n) :
    u16At (front ++ back) (n + i) = u16At back i := by
  rw [u16At, u16At, getD_append_right i h, Nat.add_assoc, getD_append_right (i + 1) h]

end Octets

lemma responseHeader_eq {query : Bytes} (h : 12 ≤ query.length) (answers : UInt16) :
    ∃ a b flags, query.take 2 = [a, b] ∧ (flags = 0x8080 ∨ flags = 0x8180) ∧
      responseHeader query answers = [a, b] ++ beBytes16 flags ++ beBytes16 1 ++
        beBytes16 answers ++ [0, 0, 0, 0] := by
  match query, h with
  | a :: b :: _, _ =>
    refine ⟨a, b, _, rfl, ?_, rfl⟩
    have hbit (flags : UInt16) : flags &&& 0x0100 = 0 ∨ flags &&& 0x0100 = 0x0100 := by
      have hnat : (flags &&& 0x0100).toNat = (flags.toNat.testBit 8).toNat * 2 ^ 8 :=
        (UInt16.toNat_and _ _).trans (Nat.and_two_pow _ 8)
      rw [← UInt16.toNat_inj, ← UInt16.toNat_inj, hnat]
      cases flags.toNat.testBit 8 <;> simp
    rcases hbit (u16At (a :: b :: _) 2) with hflags | hflags <;> rw [hflags] <;> decide

lemma header_checks {query : Bytes} (h : 12 ≤ query.length) (questionEnd : ℕ) (answers : UInt16)
    (answer : Bytes) :
    (reply query questionEnd answers answer).take 2 = query.take 2 ∧
      (reply query questionEnd answers answer).getD 2 0 &&& 0x80 ≠ 0 ∧
      u16At (reply query questionEnd answers answer) 2 &&& 0x7800 = 0 ∧
      u16At (reply query questionEnd answers answer) 4 = 1 ∧
      declaredRecords (reply query questionEnd answers answer) = answers.toNat := by
  obtain ⟨a, b, flags, hid, hflags, heq⟩ := responseHeader_eq h answers
  rw [reply, heq, hid, declaredRecords]
  generalize hmessage : [a, b] ++ beBytes16 flags ++ beBytes16 1 ++ beBytes16 answers ++ [0, 0, 0, 0] ++
    (questionBytes query questionEnd ++ answer) = message
  have hfirst : message.getD 2 0 = (beBytes16 flags).getD 0 0 := by rw [← hmessage]; rfl
  have htwo : u16At message 2 = flags := by rw [← hmessage]; exact fromBe16_beBytes16 flags
  have hfour : u16At message 4 = 1 := by rw [← hmessage]; exact fromBe16_beBytes16 1
  have hsix : u16At message 6 = answers := by rw [← hmessage]; exact fromBe16_beBytes16 answers
  have height : u16At message 8 = 0 := by rw [← hmessage]; exact fromBe16_beBytes16 0
  have hten : u16At message 10 = 0 := by rw [← hmessage]; exact fromBe16_beBytes16 0
  rw [hfirst, htwo, hsix, height, hten]
  refine ⟨by rw [← hmessage]; rfl, ?_, ?_, hfour, rfl⟩
  · rcases hflags with rfl | rfl <;> decide
  · rcases hflags with rfl | rfl <;> decide

lemma responseHeader_length {query : Bytes} (h : 12 ≤ query.length) (answers : UInt16) :
    (responseHeader query answers).length = 12 := by
  obtain ⟨a, b, flags, -, -, heq⟩ := responseHeader_eq h answers
  rw [heq]
  rfl

section Question

variable {wire answer : Bytes} {answers : UInt16} {questionEnd i : ℕ}

lemma getElem?_reply_question (hlength : 12 ≤ wire.length) (hend : questionEnd ≤ wire.length)
    (hlow : 12 ≤ i) (hhigh : i < questionEnd) :
    (reply wire questionEnd answers answer)[i]? = wire[i]? := by
  have hheader := responseHeader_length hlength answers
  rw [reply, List.getElem?_append_right (by omega), hheader, questionBytes,
    List.getElem?_append_left, List.getElem?_drop, Nat.add_sub_cancel' hlow,
    List.getElem?_take_of_lt hhigh]
  rw [List.length_drop, List.length_take]
  omega

lemma u16At_reply_question (hlength : 12 ≤ wire.length) (hend : questionEnd ≤ wire.length)
    (hlow : 12 ≤ i) (hhigh : i + 1 < questionEnd) :
    u16At (reply wire questionEnd answers answer) i = u16At wire i := by
  simp only [u16At, List.getD_eq_getElem?_getD]
  rw [getElem?_reply_question hlength hend hlow (by omega),
    getElem?_reply_question hlength hend (by omega) hhigh]

lemma length_front (hlength : 12 ≤ wire.length) (hend : questionEnd ≤ wire.length)
    (hlow : 12 ≤ questionEnd) (answers : UInt16) :
    (responseHeader wire answers ++ questionBytes wire questionEnd).length = questionEnd := by
  rw [List.length_append, responseHeader_length hlength, questionBytes, List.length_drop,
    List.length_take]
  omega

end Question

lemma rejectEcs_answer {config : SyntheticDnsConfig} {recordType answers : UInt16} {answer : Bytes}
    (hanswer : Answer config recordType answers answer) {front : Bytes}
    (hcount : declaredRecords (front ++ answer) = answers.toNat) :
    rejectEcs (front ++ answer) front.length = .ok () := by
  rw [rejectEcs, hcount]
  cases hanswer with
  | aaaa => simp [checkRecords, bind_eq_ok, pure_eq_ok]
  | a address =>
    have hoctet (i : ℕ) : (front ++ aRecord address (Cache.advertisedTtl config))[front.length + i]? =
        (aRecord address (Cache.advertisedTtl config))[i]? := by
      rw [List.getElem?_append_right (by omega), Nat.add_sub_cancel_left]
    have hskip : skipName (front ++ aRecord address (Cache.advertisedTtl config)) front.length =
        .ok (front.length + 2) := by
      have hzero := hoctet 0
      have hone := hoctet 1
      rw [Nat.add_zero] at hzero
      rw [skipName, skipLabels.eq_def]
      simp only [hzero, hone]
      simp [aRecord]
    have htype : u16At (front ++ aRecord address (Cache.advertisedTtl config)) (front.length + 2) =
        typeA := (u16At_append_right 2 rfl).trans (fromBe16_beBytes16 typeA)
    have hsize : u16At (front ++ aRecord address (Cache.advertisedTtl config))
        (front.length + 2 + 8) = 4 := (u16At_append_right 10 rfl).trans (fromBe16_beBytes16 4)
    have hlength : (front ++ aRecord address (Cache.advertisedTtl config)).length =
        front.length + 16 := List.length_append
    have hone : (1 : UInt16).toNat = 0 + 1 := rfl
    rw [hone, checkRecords, hskip]
    simp [hlength, htype, hsize, checkRecords, bind, Except.bind, pure, Except.pure, typeA, typeOpt,
      Nat.add_assoc]

section Check

variable {config : SyntheticDnsConfig} {query : DnsQuery} {question : DnsQuestion}
  {answers : UInt16} {answer : Bytes}

lemma Answer.length_le {recordType : UInt16} (h : Answer config recordType answers answer) :
    answer.length ≤ 16 := by
  cases h with
  | a address => exact le_rfl
  | aaaa => exact Nat.zero_le _

lemma validateResponse_reply (hparse : parseQuery query.wire = .ok question)
    (hanswer : Answer config question.recordType answers answer)
    (hsame : readName (reply query.wire question.questionEnd answers answer) 12 =
      readName query.wire 12) :
    validateResponse query ⟨query.queryId, reply query.wire question.questionEnd answers answer⟩ =
      .ok () := by
  obtain ⟨hlength, hostname, nameEnd, hname, hbound, -, rfl⟩ := parseQuery_eq_ok hparse
  obtain ⟨hlow, hle⟩ : 12 ≤ nameEnd ∧ nameEnd ≤ 12 + 255 :=
    (readName_eq_ok.mp hname).end_bounds rfl
  obtain ⟨hid, hbit, hopcode, hone, hcount⟩ := header_checks hlength (nameEnd + 4) answers answer
  have hfront := length_front hlength hbound (by omega) answers
  have hsize : (reply query.wire (nameEnd + 4) answers answer).length =
      nameEnd + 4 + answer.length := by
    rw [reply, ← List.append_assoc, List.length_append, hfront]
  have hecs : rejectEcs (reply query.wire (nameEnd + 4) answers answer) (nameEnd + 4) = .ok () := by
    rw [reply, ← List.append_assoc] at hcount ⊢
    have hchecked := rejectEcs_answer hanswer hcount
    rwa [hfront] at hchecked
  have hshort := hanswer.length_le
  simp only [validateResponse, bind_eq_ok, guard_eq_ok, not_or, not_not, not_lt, hparse,
    Except.ok.injEq, hid, hopcode, hone]
  refine ⟨⟨trivial, ?_, ?_, trivial, hbit⟩, _, rfl, ⟨trivial, trivial⟩, _, hsame.trans hname, ?_, ?_,
    hecs⟩
  · omega
  · rw [maxDnsMessageBytes]
    omega
  · simp only
    omega
  · exact ⟨rfl, u16At_reply_question hlength hbound hlow (by omega),
      u16At_reply_question hlength hbound (by omega) (by omega)⟩

end Check

/-- The octets of a query that its answer has in the same places: the identifier, the question, and
of the counts those that are not changed. -/
def Repeated (query : Bytes) (question : DnsQuestion) (i : ℕ) : Prop :=
  i < 2 ∨ 12 ≤ i ∧ i < question.questionEnd ∨ 4 ≤ i ∧ i < 12 ∧
    query[i]? = [0, 1, 0, if question.recordType = typeA then 1 else 0, 0, 0, 0, 0][i - 4]?

section Repeated

variable {config : SyntheticDnsConfig} {query : DnsQuery} {question : DnsQuestion}
  {answers : UInt16} {answer : Bytes}

lemma getElem?_reply (hlength : 12 ≤ query.wire.length)
    (hend : question.questionEnd ≤ query.wire.length)
    (hanswer : Answer config question.recordType answers answer) {i : ℕ}
    (hi : Repeated query.wire question i) :
    (reply query.wire question.questionEnd answers answer)[i]? = query.wire[i]? := by
  rcases hi with hi | ⟨hlow, hhigh⟩ | ⟨hlow, hhigh, hsame⟩
  · rw [← List.getElem?_take_of_lt hi, (header_checks hlength _ answers answer).1,
      List.getElem?_take_of_lt hi]
  · exact getElem?_reply_question hlength hend hlow hhigh
  · obtain ⟨a, b, flags, -, -, heq⟩ := responseHeader_eq hlength answers
    have hcount : beBytes16 answers = [0, if question.recordType = typeA then 1 else 0] := by
      generalize question.recordType = recordType at hanswer
      cases hanswer <;> rfl
    have hcounts : responseHeader query.wire answers = ([a, b] ++ beBytes16 flags) ++
        [0, 1, 0, if question.recordType = typeA then 1 else 0, 0, 0, 0, 0] := by
      rw [heq, hcount]
      rfl
    rw [reply, hcounts, List.append_assoc, List.getElem?_append_right hlow,
      List.getElem?_append_left, hsame]
    · rfl
    · simp
      omega

end Repeated

theorem synthetic_consistent (config : SyntheticDnsConfig) {query : DnsQuery}
    {question : DnsQuestion} (hparse : parseQuery query.wire = .ok question)
    (hclass : question.recordClass = 1)
    (htype : question.recordType = typeA ∨ question.recordType = typeAaaa)
    (hname : Within (Repeated query.wire question) query.wire 12) (c : Cache) (now : ℕ) :
    ∀ response c', c.syntheticResponse config now query question = (.ok response, c') →
      validateResponse query response = .ok () := by
  have hvalid : ∀ {answers answer}, Answer config question.recordType answers answer →
      validateResponse query ⟨query.queryId, reply query.wire question.questionEnd answers answer⟩ =
        .ok () := by
    intro answers answer hanswer
    obtain ⟨hlength, hostname, nameEnd, hread, hend, -, hquestion⟩ := parseQuery_eq_ok hparse
    have hend : question.questionEnd ≤ query.wire.length := hquestion ▸ hend
    refine validateResponse_reply hparse hanswer ?_
    rw [hread, readName_eq_ok]
    exact (readName_eq_ok.mp hread).of_within (fun i => getElem?_reply hlength hend hanswer) hname
  intro response c' hresponse
  rw [Cache.syntheticResponse, if_neg (not_not.mpr hclass)] at hresponse
  rcases htype with htype | htype
  · have ha : typeA ≠ typeAaaa := by decide
    rw [if_neg (by rw [htype]; exact ha)] at hresponse
    cases hget : c.getOrAllocate config now question.hostname with
    | mk result c₁ =>
      rw [hget] at hresponse
      cases result with
      | error e => cases (Prod.mk.inj hresponse).1
      | ok address =>
        obtain rfl := Except.ok.inj (Prod.mk.inj hresponse).1
        have hanswer : Answer config question.recordType 1
          (aRecord address (Cache.advertisedTtl config)) := htype ▸ .a address
        rw [aResponse, List.append_assoc]
        exact hvalid hanswer
  · rw [if_pos htype] at hresponse
    obtain rfl := Except.ok.inj (Prod.mk.inj hresponse).1
    have hanswer : Answer config question.recordType 0 [] := htype ▸ .aaaa
    have hwire : emptySuccessResponse query.wire question.questionEnd =
        reply query.wire question.questionEnd 0 [] := by
      rw [emptySuccessResponse, reply, List.append_nil]
    rw [hwire]
    exact hvalid hanswer

open Cache History

namespace Sample

/-- The name ends with a pointer to the first octet of the question count. -/
def rootedQuery : DnsQuery :=
  ⟨1, [0, 7, 1, 0, 0, 1, 0, 0, 0, 0, 0, 0, 1, 97, 192, 4, 0, 1, 0, 1]⟩

def rootedQuestion : DnsQuestion := ⟨"a", typeA, 1, 20⟩

def pointingQuery : DnsQuery :=
  ⟨1, [0, 7, 1, 0, 0, 1, 0, 0, 0, 0, 0, 1, 192, 18, 0, 1, 0, 1,
    1, 97, 0, 0, 16, 0, 1, 0, 0, 0, 0, 0, 0]⟩

def pointingQuestion : DnsQuestion := ⟨"a", typeA, 1, 18⟩

def pointingAnswer : DnsResponse := ⟨1, aResponse pointingQuery.wire 18 address 30⟩

end Sample

open Sample in
theorem synthetic_consistent_rooted :
    parseQuery rootedQuery.wire = .ok rootedQuestion ∧
      ∀ (c : Cache) now response c', c.syntheticResponse cacheConfig now rootedQuery
        rootedQuestion = (.ok response, c') →
          validateResponse rootedQuery response = .ok () := by
  have hparse : parseQuery rootedQuery.wire = .ok rootedQuestion := by decide +kernel
  have hinside : ∀ i, 12 ≤ i → i < 20 →
      Repeated rootedQuery.wire rootedQuestion i := fun i h h' => .inr (.inl ⟨h, h'⟩)
  refine ⟨hparse, synthetic_consistent cacheConfig hparse rfl (.inl rfl) ?_⟩
  refine @Within.label _ _ _ 1 rfl rfl (by decide) ?_ (.pointer (a := 192) (b := 4) rfl rfl rfl
    (hinside _ (by decide) (by decide)) (hinside _ (by decide) (by decide)) (.root rfl ?_))
  · intro i hi
    have hi : i ≤ 1 := hi
    exact hinside _ (by omega) (by omega)
  · exact .inr (.inr ⟨le_rfl, by decide, rfl⟩)

open Sample in
/-- The answer repeats the pointer, and what it points to is now the answer's own record. -/
theorem pointer_leaves_question :
    parseQuery pointingQuery.wire = .ok pointingQuestion ∧
      ((run cacheConfig []).cache.syntheticResponse cacheConfig 0 pointingQuery
        pointingQuestion).1 = .ok pointingAnswer ∧
      validateResponse pointingQuery pointingAnswer =
        .error (malformed "DNS compression pointer is invalid") := by
  refine ⟨?_, ?_, ?_⟩ <;> decide +kernel

end OnionRoute.DnsEngine
