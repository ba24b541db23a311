import OnionRoute.DnsEngine.Names
import OnionRoute.DnsEngine.SyntheticAnswers
import OnionRoute.Library.SelfDelimiting

/-! How an accepted query is laid out. -/

namespace OnionRoute.DnsEngine

open Library CommonTypes NameReader

structure EdnsOption where
  code : UInt16
  data : Bytes
  fits : data.length < 65536

def EdnsOption.bytes (o : EdnsOption) : Bytes :=
  beBytes16 o.code ++ beBytes16 (UInt16.ofNat o.data.length) ++ o.data

structure Record where
  name : Bytes
  isName : EncodedName name
  recordType : UInt16
  recordClass : UInt16
  ttl : UInt32
  data : Bytes
  fits : data.length < 65536

def Record.bytes (r : Record) : Bytes :=
  r.name ++ (beBytes16 r.recordType ++ beBytes16 r.recordClass ++ beBytes32 r.ttl ++
    beBytes16 (UInt16.ofNat r.data.length) ++ r.data)

structure Layout where
  name : Bytes
  isName : EncodedName name
  recordType : UInt16
  recordClass : UInt16
  records : List Record

def Layout.bytes (l : Layout) : Bytes :=
  l.name ++ (beBytes16 l.recordType ++ beBytes16 l.recordClass ++ l.records.flatMap Record.bytes)

section Unique

lemma sized_inj {a b x y : Bytes} (ha : a.length < 65536) (hb : b.length < 65536)
    (h : beBytes16 (UInt16.ofNat a.length) ++ (a ++ x) = beBytes16 (UInt16.ofNat b.length) ++ (b ++ y)) :
    a = b ∧ x = y := by
  obtain ⟨hlen, hrest⟩ := List.append_inj h rfl
  have hlen := congrArg UInt16.toNat (beBytes16_inj hlen)
  rw [UInt16.toNat_ofNat', UInt16.toNat_ofNat', Nat.mod_eq_of_lt ha, Nat.mod_eq_of_lt hb] at hlen
  exact List.append_inj hrest hlen

lemma selfDelimiting_option : SelfDelimiting EdnsOption.bytes := by
  intro a b x y h
  simp only [EdnsOption.bytes, List.append_assoc] at h
  obtain ⟨hcode, h⟩ := List.append_inj h rfl
  obtain ⟨hdata, rfl⟩ := sized_inj a.fits b.fits h
  obtain ⟨code, data, _⟩ := a
  obtain ⟨code', data', _⟩ := b
  obtain rfl := beBytes16_inj hcode
  obtain rfl : data = data' := hdata
  exact ⟨rfl, rfl⟩

lemma selfDelimiting_record : SelfDelimiting Record.bytes := by
  intro a b x y h
  simp only [Record.bytes, List.append_assoc] at h
  obtain ⟨hname, h⟩ := a.isName.inj b.isName h
  obtain ⟨htype, h⟩ := List.append_inj h rfl
  obtain ⟨hclass, h⟩ := List.append_inj h rfl
  obtain ⟨httl, h⟩ := List.append_inj h rfl
  obtain ⟨hdata, rfl⟩ := sized_inj a.fits b.fits h
  obtain ⟨name, _, recordType, recordClass, ttl, data, _⟩ := a
  obtain ⟨name', _, recordType', recordClass', ttl', data', _⟩ := b
  obtain rfl := beBytes16_inj htype
  obtain rfl := beBytes16_inj hclass
  obtain rfl := beBytes32_inj httl
  obtain rfl : name = name' := hname
  obtain rfl : data = data' := hdata
  exact ⟨rfl, rfl⟩

lemma option_ne_nil (o : EdnsOption) : o.bytes ≠ [] := by
  simp [EdnsOption.bytes, beBytes16]

lemma record_ne_nil (r : Record) : r.bytes ≠ [] := by
  simp [Record.bytes, beBytes16]

lemma Layout.bytes_inj {l l' : Layout} (h : l.bytes = l'.bytes) : l = l' := by
  simp only [Layout.bytes, List.append_assoc] at h
  obtain ⟨hname, h⟩ := l.isName.inj l'.isName h
  obtain ⟨htype, h⟩ := List.append_inj h rfl
  obtain ⟨hclass, h⟩ := List.append_inj h rfl
  have hrecords := selfDelimiting_record.flatMap_inj record_ne_nil h
  obtain ⟨name, _, recordType, recordClass, records⟩ := l
  obtain ⟨name', _, recordType', recordClass', records'⟩ := l'
  obtain rfl := beBytes16_inj htype
  obtain rfl := beBytes16_inj hclass
  obtain rfl : name = name' := hname
  obtain rfl : records = records' := hrecords
  rfl

end Unique

def Record.Clean (r : Record) : Prop :=
  r.recordType = typeOpt →
    (∃ options : List EdnsOption, r.data = options.flatMap EdnsOption.bytes) ∧
    ∀ options : List EdnsOption, r.data = options.flatMap EdnsOption.bytes →
      ∀ o ∈ options, o.code ≠ optionEcs

section Walk

variable {wire : Bytes} {cursor finish : ℕ}

variable (wire cursor) in
lemma drop_u16 (h : cursor + 2 ≤ wire.length) :
    wire.drop cursor = beBytes16 (u16At wire cursor) ++ wire.drop (cursor + 2) := by
  have ha : wire[cursor]? = some (wire.getD cursor 0) := by
    rw [List.getD_eq_getElem?_getD, List.getElem?_eq_getElem (by omega), Option.getD_some]
  have hb : wire[cursor + 1]? = some (wire.getD (cursor + 1) 0) := by
    rw [List.getD_eq_getElem?_getD, List.getElem?_eq_getElem (by omega), Option.getD_some]
  rw [u16At, beBytes16_fromBe16]
  exact drop_pointer ha hb

variable (wire cursor) in
lemma drop_u32 (h : cursor + 4 ≤ wire.length) :
    ∃ n, wire.drop cursor = beBytes32 n ++ wire.drop (cursor + 4) := by
  refine ⟨fromBe32 (wire.getD cursor 0) (wire.getD (cursor + 1) 0) (wire.getD (cursor + 2) 0)
    (wire.getD (cursor + 3) 0), ?_⟩
  have hhigh := drop_u16 wire cursor (by omega)
  have hlow := drop_u16 wire (cursor + 2) (by omega)
  rw [u16At, beBytes16_fromBe16] at hhigh hlow
  rw [beBytes32_fromBe32, hhigh, hlow]
  rfl

lemma drop_slice (hle : cursor ≤ finish) :
    wire.drop cursor = (wire.take finish).drop cursor ++ wire.drop finish := by
  have hrest : wire.drop finish = (wire.drop cursor).drop (finish - cursor) := by
    rw [List.drop_drop, Nat.add_sub_cancel' hle]
  rw [List.drop_take, hrest, List.take_append_drop]

lemma u16At_take (h : cursor + 2 ≤ finish) : u16At (wire.take finish) cursor = u16At wire cursor := by
  simp only [u16At, List.getD_eq_getElem?_getD]
  rw [List.getElem?_take_of_lt (by omega), List.getElem?_take_of_lt (by omega)]

variable (wire cursor) in
lemma drop_sized (h : cursor + 2 + (u16At wire cursor).toNat ≤ wire.length) : ∃ data : Bytes,
    data.length < 65536 ∧
      data = (wire.take (cursor + 2 + (u16At wire cursor).toNat)).drop (cursor + 2) ∧
      wire.drop cursor = beBytes16 (UInt16.ofNat data.length) ++
        (data ++ wire.drop (cursor + 2 + (u16At wire cursor).toNat)) := by
  have hlt := (u16At wire cursor).toNat_lt
  have hlength : ((wire.take (cursor + 2 + (u16At wire cursor).toNat)).drop (cursor + 2)).length =
      (u16At wire cursor).toNat := by
    rw [List.length_drop, List.length_take]
    omega
  refine ⟨_, by omega, rfl, ?_⟩
  rw [hlength, UInt16.ofNat_toNat, drop_u16 wire cursor (by omega), ← drop_slice (by omega)]

lemma checkOptions_eq_ok {turns : ℕ} (hfinish : finish ≤ wire.length)
    (hcursor : cursor ≤ finish) (hturns : finish - cursor ≤ turns)
    (h : checkOptions wire finish turns cursor = .ok ()) :
    ∃ options : List EdnsOption, (wire.take finish).drop cursor = options.flatMap EdnsOption.bytes ∧
      ∀ o ∈ options, o.code ≠ optionEcs := by
  have hlength : (wire.take finish).length = finish := by
    rw [List.length_take]
    omega
  have hempty (hle : finish ≤ cursor) : (wire.take finish).drop cursor = [] :=
    List.drop_eq_nil_of_le (by omega)
  induction turns generalizing cursor with
  | zero => exact ⟨[], hempty (by omega), by simp⟩
  | succ turns ih =>
    rw [checkOptions] at h
    simp only at h
    split_ifs at h with hdone hshort hlong hecs
    · exact ⟨[], hempty hdone, by simp⟩
    · obtain ⟨options, hoptions, hcodes⟩ := ih (by omega) (by omega) h
        fun hle => List.drop_eq_nil_of_le (by omega)
      have hcode := drop_u16 (wire.take finish) cursor (by omega)
      have hsize : u16At (wire.take finish) (cursor + 2) = u16At wire (cursor + 2) :=
        u16At_take (by omega)
      obtain ⟨data, hfits, -, hdata⟩ :=
        drop_sized (wire.take finish) (cursor + 2) (by rw [hsize]; omega)
      rw [u16At_take (by omega)] at hcode
      rw [hsize, hoptions] at hdata
      refine ⟨⟨u16At wire cursor, data, hfits⟩ :: options, ?_, ?_⟩
      · rw [hcode, hdata, List.flatMap_cons, EdnsOption.bytes]
        simp only [List.append_assoc]
      · intro o ho
        rcases List.mem_cons.mp ho with rfl | ho
        · exact hecs
        · exact hcodes o ho

lemma clean_of_options {r : Record} {options : List EdnsOption}
    (hdata : r.data = options.flatMap EdnsOption.bytes) (hcodes : ∀ o ∈ options, o.code ≠ optionEcs) :
    r.Clean := by
  refine fun _ => ⟨⟨options, hdata⟩, fun other hother => ?_⟩
  rwa [← selfDelimiting_option.flatMap_inj option_ne_nil (hdata.symm.trans hother)]

lemma checkRecords_eq_ok {left : ℕ} (h : checkRecords wire left cursor = .ok finish) :
    ∃ records : List Record, records.length = left ∧
      wire.drop cursor = records.flatMap Record.bytes ++ wire.drop finish ∧
      ∀ r ∈ records, r.Clean := by
  induction left generalizing cursor with
  | zero =>
    obtain rfl := Except.ok.inj h
    exact ⟨[], rfl, rfl, by simp⟩
  | succ left ih =>
    simp only [checkRecords, bind_eq_ok, guard_eq_ok, not_lt] at h
    obtain ⟨nameEnd, hskip, hheader, hbound, h⟩ := h
    obtain ⟨name, hname, hdrop⟩ := (skipLabels_ownEnd hskip).encoded
    have htype := drop_u16 wire nameEnd (by omega)
    have hclass := drop_u16 wire (nameEnd + 2) (by omega)
    obtain ⟨ttl, httl⟩ := drop_u32 wire (nameEnd + 4) (by omega)
    obtain ⟨data, hfits, hslice, hdata⟩ :=
      drop_sized wire (nameEnd + 8) (by omega)
    have hend : nameEnd + 8 + 2 + (u16At wire (nameEnd + 8)).toNat =
        nameEnd + 10 + (u16At wire (nameEnd + 8)).toNat := by omega
    rw [hend] at hslice hdata
    let r : Record :=
      ⟨name, hname, u16At wire nameEnd, u16At wire (nameEnd + 2), ttl, data, hfits⟩
    have hbytes : wire.drop cursor =
        r.bytes ++ wire.drop (nameEnd + 10 + (u16At wire (nameEnd + 8)).toNat) := by
      rw [hdrop, htype, hclass, httl, hdata, Record.bytes]
      simp only [List.append_assoc]
      rfl
    have hrest : checkRecords wire left (nameEnd + 10 + (u16At wire (nameEnd + 8)).toNat) =
        .ok finish ∧ r.Clean := by
      by_cases hopt : u16At wire nameEnd = typeOpt
      · rw [if_pos hopt, bind_eq_ok] at h
        obtain ⟨_, hoptions, h⟩ := h
        obtain ⟨options, hsplit, hcodes⟩ := checkOptions_eq_ok hbound (by omega) le_rfl hoptions
        exact ⟨h, clean_of_options (hslice.trans hsplit) hcodes⟩
      · rw [if_neg hopt] at h
        exact ⟨h, fun htypeOpt => absurd htypeOpt hopt⟩
    obtain ⟨records, hcount, hrecords, hclean⟩ := ih hrest.1
    refine ⟨r :: records, by rw [List.length_cons, hcount], ?_, ?_⟩
    · rw [hbytes, hrecords, List.flatMap_cons, List.append_assoc]
    · intro r' hr'
      rcases List.mem_cons.mp hr' with rfl | hr'
      · exact hrest.2
      · exact hclean r' hr'

end Walk

lemma parseQuery_eq_ok {wire : Bytes} {question : DnsQuestion} (h : parseQuery wire = .ok question) :
    12 ≤ wire.length ∧ ∃ hostname nameEnd, readName wire 12 = .ok (hostname, nameEnd) ∧
      nameEnd + 4 ≤ wire.length ∧
      checkRecords wire (declaredRecords wire) (nameEnd + 4) = .ok wire.length ∧
      question = ⟨hostname, u16At wire nameEnd, u16At wire (nameEnd + 2), nameEnd + 4⟩ := by
  simp only [parseQuery, rejectEcs, bind_eq_ok, guard_eq_ok, ite_throw_eq_ok, not_not, not_or,
    not_lt] at h
  obtain ⟨⟨hlength, -⟩, -, -, -, -, ⟨hostname, nameEnd⟩, hname, hbound, _, ⟨-, finish, hrecords,
    rfl, -⟩, hquestion⟩ := h
  exact ⟨hlength, hostname, nameEnd, hname, hbound, hrecords, (pure_eq_ok.mp hquestion).symm⟩

lemma question_bytes {wire : Bytes} {hostname : String} {nameEnd : ℕ}
    (hname : readName wire 12 = .ok (hostname, nameEnd)) (hbound : nameEnd + 4 ≤ wire.length) :
    ∃ name, EncodedName name ∧ wire.drop 12 = name ++ (beBytes16 (u16At wire nameEnd) ++
      (beBytes16 (u16At wire (nameEnd + 2)) ++ wire.drop (nameEnd + 4))) := by
  obtain ⟨name, hencoded, hdrop⟩ := ((readName_eq_ok.mp hname).ownEnd rfl).encoded
  have htype := drop_u16 wire nameEnd (by omega)
  have hclass := drop_u16 wire (nameEnd + 2) (by omega)
  refine ⟨name, hencoded, ?_⟩
  rw [← hclass, ← htype]
  exact hdrop

/-- An accepted query consists of its header, its question and exactly the records it declares, in
one way only, and no option of an OPT record in any section is a client subnet. -/
theorem query_layout {wire : Bytes} {question : DnsQuestion} (h : parseQuery wire = .ok question) :
    12 ≤ wire.length ∧ ∃ layout : Layout, wire.drop 12 = layout.bytes ∧
      layout.records.length = declaredRecords wire ∧ (∀ r ∈ layout.records, r.Clean) ∧
      ∀ other : Layout, wire.drop 12 = other.bytes → other = layout := by
  obtain ⟨hlength, hostname, nameEnd, hname, hbound, hwalk, -⟩ := parseQuery_eq_ok h
  obtain ⟨name, hencoded, hdrop⟩ := question_bytes hname hbound
  obtain ⟨records, hcount, hrecords, hclean⟩ := checkRecords_eq_ok hwalk
  let layout : Layout := ⟨name, hencoded, u16At wire nameEnd, u16At wire (nameEnd + 2), records⟩
  have hbytes : wire.drop 12 = layout.bytes := by
    rw [hdrop, hrecords, List.drop_length, List.append_nil, Layout.bytes, List.append_assoc]
  exact ⟨hlength, layout, hbytes, hcount, hclean,
    fun other hother => Layout.bytes_inj (hother.symm.trans hbytes)⟩

namespace Sample

def paddedQuery : Bytes :=
  [0, 7, 1, 0, 0, 1, 0, 0, 0, 0, 0, 1, 1, 97, 0, 0, 1, 0, 1,
    0, 0, 41, 4, 208, 0, 0, 0, 0, 0, 6, 0, 12, 0, 2, 0, 0]

lemma parseQuery_paddedQuery : parseQuery paddedQuery = .ok question := by decide +kernel

end Sample

theorem query_layout_padded : ∃ layout : Layout, Sample.paddedQuery.drop 12 = layout.bytes ∧
    layout.records.length = 1 ∧ ∀ r ∈ layout.records, r.Clean := by
  obtain ⟨-, layout, hbytes, hcount, hclean, -⟩ := query_layout Sample.parseQuery_paddedQuery
  exact ⟨layout, hbytes, hcount, hclean⟩

end OnionRoute.DnsEngine
