import OnionRoute.Library.Outcome
import OnionRoute.GatewayDaemon.DnsWire

/-! Names in text and on the wire. -/

namespace OnionRoute.GatewayDaemon

open Library

def isLabelByte (b : UInt8) : Bool := isAsciiAlphanumeric b || b == hyphen

lemma toAsciiLowercase_eq_hyphen : ∀ b, toAsciiLowercase b = hyphen ↔ b = hyphen :=
  forall_byte (by decide +kernel)

lemma toAsciiLowercase_idem : ∀ b, toAsciiLowercase (toAsciiLowercase b) = toAsciiLowercase b :=
  forall_byte (by decide +kernel)

lemma isLabelByte_lowercase : ∀ b, isLabelByte (toAsciiLowercase b) = isLabelByte b :=
  forall_byte (by decide +kernel)

lemma ne_dot_of_isLabelByte : ∀ b, isLabelByte b = true → b ≠ dot :=
  forall_byte (by decide +kernel)

lemma lowercase_ascii : ∀ b, 128 ≤ toAsciiLowercase b ↔ 128 ≤ b :=
  forall_byte (by decide +kernel)

variable {label : Bytes}

lemma labelAllowed_iff : labelAllowed label = true ↔
    label ≠ [] ∧ label.length ≤ 63 ∧ label.head? ≠ some hyphen ∧ label.getLast? ≠ some hyphen ∧
      ∀ b ∈ label, isLabelByte b = true := by
  simp [labelAllowed, isLabelByte, and_assoc]

lemma labelAllowed_lowercase (label : Bytes) :
    labelAllowed (label.map toAsciiLowercase) = labelAllowed label := by
  rw [Bool.eq_iff_iff, labelAllowed_iff, labelAllowed_iff]
  simp [List.head?_map, List.getLast?_map, toAsciiLowercase_eq_hyphen, isLabelByte_lowercase]

lemma labelReadable_of_allowed (h : labelAllowed label = true) :
    NameReader.labelReadable label = true := by
  obtain ⟨-, hlen, hhead, hlast, hall⟩ := labelAllowed_iff.mp h
  simp only [NameReader.labelReadable, Bool.and_eq_true, decide_eq_true_eq, List.all_eq_true]
  exact ⟨⟨⟨hlen, hall⟩, hhead⟩, hlast⟩

lemma dot_notMem (h : labelAllowed label = true) : dot ∉ label := by
  intro hd
  exact ne_dot_of_isLabelByte dot ((labelAllowed_iff.mp h).2.2.2.2 dot hd) rfl

lemma splitOn_lowercase {name : Bytes} (h : ∀ label ∈ name.splitOn dot, labelAllowed label = true) :
    (name.map toAsciiLowercase).splitOn dot =
      (name.splitOn dot).map (List.map toAsciiLowercase) := by
  have hname : name.map toAsciiLowercase =
      [dot].intercalate ((name.splitOn dot).map (List.map toAsciiLowercase)) :=
    calc name.map toAsciiLowercase
        = ([dot].intercalate (name.splitOn dot)).map toAsciiLowercase := by
          rw [List.intercalate_splitOn]
      _ = _ := map_intercalate _ _ _
  rw [hname]
  refine List.splitOn_intercalate dot ?_ (by simp)
  intro label hl
  obtain ⟨original, ho, rfl⟩ := List.mem_map.mp hl
  exact dot_notMem ((labelAllowed_lowercase original).trans (h original ho))

lemma checkLabel_eq_ok : checkLabel label = .ok () ↔ labelAllowed label = true := by
  unfold checkLabel
  split_ifs with h <;> simp [h]

variable {parsesAsIp : Bytes → Bool} {hostname name : Bytes}

lemma canonicalHostname_eq_ok : canonicalHostname parsesAsIp hostname = .ok name ↔
    stripDot hostname ≠ [] ∧ (stripDot hostname).length ≤ 253 ∧
      (∀ b ∈ stripDot hostname, ¬ 128 ≤ b) ∧ parsesAsIp (stripDot hostname) = false ∧
      (∀ label ∈ (stripDot hostname).splitOn dot, labelAllowed label = true) ∧
      (stripDot hostname).map toAsciiLowercase = name := by
  simp only [canonicalHostname, guard_eq_ok, bind_eq_ok, pure_eq_ok, forIn_eq_ok,
    checkLabel_eq_ok, exists_and_right, exists_const, not_or, not_lt, List.any_eq_true,
    decide_eq_true_eq, not_exists, not_and, Bool.not_eq_true, and_assoc, ne_eq]

structure Canonical (parsesAsIp : Bytes → Bool) (name : Bytes) : Prop where
  length : name.length ≤ 253
  ascii : ∀ b ∈ name, ¬ 128 ≤ b
  plain : parsesAsIp name = false
  allowed : ∀ label ∈ name.splitOn dot, labelAllowed label = true
  lowercase : ∀ label ∈ name.splitOn dot, label.map toAsciiLowercase = label

namespace Canonical

lemma of_eq_ok (hip : ∀ text, parsesAsIp (text.map toAsciiLowercase) = parsesAsIp text)
    (h : canonicalHostname parsesAsIp hostname = .ok name) : Canonical parsesAsIp name := by
  obtain ⟨-, hlen, hascii, hparse, hall, rfl⟩ := canonicalHostname_eq_ok.mp h
  have hsplit := splitOn_lowercase hall
  refine ⟨by simpa using hlen, ?_, (hip _).trans hparse, ?_, ?_⟩
  · intro b hb
    obtain ⟨a, ha, rfl⟩ := List.mem_map.mp hb
    rw [lowercase_ascii]
    exact hascii a ha
  · intro label hl
    rw [hsplit] at hl
    obtain ⟨original, ho, rfl⟩ := List.mem_map.mp hl
    rw [labelAllowed_lowercase]
    exact hall original ho
  · intro label hl
    rw [hsplit] at hl
    obtain ⟨original, ho, rfl⟩ := List.mem_map.mp hl
    simp [toAsciiLowercase_idem]

variable (h : Canonical parsesAsIp name)
include h

lemma ne_nil : name ≠ [] := by
  rintro rfl
  have hnil := h.allowed [] (by simp)
  exact (labelAllowed_iff.mp hnil).1 rfl

lemma getLast?_ne : name.getLast? ≠ some dot := by
  intro hlast
  obtain ⟨front, rfl⟩ := List.getLast?_eq_some_iff.mp hlast
  have hnil := h.allowed [] (by simp [List.splitOn_append_cons_self])
  exact (labelAllowed_iff.mp hnil).1 rfl

lemma map_lowercase : name.map toAsciiLowercase = name :=
  calc name.map toAsciiLowercase
      = [dot].intercalate ((name.splitOn dot).map (List.map toAsciiLowercase)) := by
        rw [← splitOn_lowercase h.allowed, List.intercalate_splitOn]
    _ = [dot].intercalate (name.splitOn dot) := by
        rw [List.map_congr_left h.lowercase, List.map_id']
    _ = name := List.intercalate_splitOn dot

lemma canonicalHostname_eq : canonicalHostname parsesAsIp name = .ok name := by
  have hstrip : stripDot name = name := if_neg h.getLast?_ne
  rw [canonicalHostname_eq_ok, hstrip]
  exact ⟨h.ne_nil, h.length, h.ascii, h.plain, h.allowed, h.map_lowercase⟩

end Canonical

def nameBytes : List Bytes → Bytes
  | [] => [0]
  | label :: rest => UInt8.ofNat label.length :: label ++ nameBytes rest

lemma encodeLabels_eq {labels : List Bytes} (h : ∀ label ∈ labels, labelAllowed label = true) :
    encodeLabels labels = .ok (nameBytes labels) := by
  induction labels with
  | nil => rfl
  | cons label rest ih =>
    obtain ⟨hne, hlen, -⟩ := labelAllowed_iff.mp (h label List.mem_cons_self)
    have hcond : ¬ (label.length = 0 ∨ 63 < label.length) := by
      simp [hne]
      omega
    rw [encodeLabels, if_neg hcond, ih fun l hl => h l (List.mem_cons_of_mem label hl)]
    rfl

lemma length_nameBytes {labels : List Bytes} (h : labels ≠ []) :
    (nameBytes labels).length = ([dot].intercalate labels).length + 2 := by
  induction labels with
  | nil => exact absurd rfl h
  | cons label rest ih =>
    cases rest with
    | nil => simp [nameBytes, List.intercalate_singleton]
    | cons next rest =>
      rw [nameBytes, List.intercalate_cons_cons]
      simp only [List.cons_append, List.length_cons, List.length_append, List.length_nil,
        ih (List.cons_ne_nil next rest)]
      omega

lemma length_byte : ∀ n ≤ 63, n ≠ 0 → UInt8.ofNat n &&& 0xc0 = 0 ∧ UInt8.ofNat n ≠ 0 ∧
    (UInt8.ofNat n).toNat = n := by
  decide +kernel

namespace NameReader

variable {wire tail : Bytes} {r : NameReader} {label : Bytes} {labels : List Bytes}

lemma getElem?_cursor {b : UInt8} (h : wire.drop r.cursor = b :: tail) :
    wire[r.cursor]? = some b := by
  have hget : (wire.drop r.cursor)[0]? = wire[r.cursor + 0]? := List.getElem?_drop
  rw [h] at hget
  simpa using hget.symm

lemma step_label (hv : r.cursor ∉ r.visited) (ha : labelAllowed label = true)
    (hdrop : wire.drop r.cursor = UInt8.ofNat label.length :: (label ++ tail)) :
    r.step wire = .ok (.inl
      { cursor := r.cursor + 1 + label.length
        consumedEnd := r.consumedEnd
        labels := r.labels ++ [label.map toAsciiLowercase]
        visited := r.cursor :: r.visited
        expanded := r.expanded + label.length + if r.labels = [] then 0 else 1 }) := by
  obtain ⟨hne, hlen, -⟩ := labelAllowed_iff.mp ha
  obtain ⟨hplain, hpos, hnat⟩ := length_byte label.length hlen (by simpa using hne)
  have hget := getElem?_cursor hdrop
  have hrest : wire.drop (r.cursor + 1) = label ++ tail := by
    rw [← List.drop_drop, hdrop]
    rfl
  have hfits : ¬ wire.length < r.cursor + 1 + label.length := by
    have hl := congrArg List.length hrest
    simp only [List.length_drop, List.length_append] at hl
    have : 0 < label.length := List.length_pos_iff.mpr hne
    omega
  have hread := labelReadable_of_allowed ha
  simp only [step, hv, hget, hplain, hpos, hnat, hrest, List.take_left, hfits, hread, if_false]
  simp

lemma step_end (hv : r.cursor ∉ r.visited) (hdrop : wire.drop r.cursor = 0 :: tail)
    (hl : r.labels ≠ []) (he : r.expanded ≤ 253) :
    r.step wire = .ok (.inr ([dot].intercalate r.labels, r.consumedEnd.getD (r.cursor + 1))) := by
  have hget := getElem?_cursor hdrop
  have hcond : ¬ (r.labels = [] ∨ 253 < r.expanded) := by
    simp [hl]
    omega
  simp [step, hv, hget, hcond]

structure Straight (r : NameReader) : Prop where
  visited : ∀ v ∈ r.visited, v < r.cursor
  consumedEnd : r.consumedEnd = none
  expanded : r.expanded = ([dot].intercalate r.labels).length

lemma Straight.notMem (h : r.Straight) : r.cursor ∉ r.visited := fun hv =>
  Nat.lt_irrefl _ (h.visited _ hv)

lemma straight_start (cursor : ℕ) : (start cursor).Straight :=
  ⟨by simp [start], rfl, rfl⟩

lemma straight_next (h : r.Straight) (label : Bytes) : Straight
    { cursor := r.cursor + 1 + label.length
      consumedEnd := r.consumedEnd
      labels := r.labels ++ [label]
      visited := r.cursor :: r.visited
      expanded := r.expanded + label.length + if r.labels = [] then 0 else 1 } := by
  refine ⟨?_, h.consumedEnd, ?_⟩
  · intro v hv
    rcases List.mem_cons.mp hv with rfl | hv
    · simp only
      omega
    · have := h.visited v hv
      simp only
      omega
  · simp only [h.expanded]
    by_cases hl : r.labels = []
    · simp [hl, List.intercalate_singleton]
    · rw [intercalate_concat [dot] hl label]
      simp only [hl, if_false, List.length_append, List.length_singleton]
      omega

lemma run_labels (hr : r.Straight) (ha : ∀ label ∈ labels, labelAllowed label = true)
    (hlow : ∀ label ∈ labels, label.map toAsciiLowercase = label)
    (hdrop : wire.drop r.cursor = nameBytes labels ++ tail) (hne : r.labels ++ labels ≠ [])
    (hlen : ([dot].intercalate (r.labels ++ labels)).length ≤ 253) (turns : ℕ) :
    r.run wire turns = if labels.length < turns then
        .ok ([dot].intercalate (r.labels ++ labels), r.cursor + (nameBytes labels).length)
      else .error .dnsFailure := by
  induction labels generalizing r turns with
  | nil =>
    cases turns with
    | zero => rfl
    | succ turns =>
      simp only [List.append_nil] at hne hlen ⊢
      have hstep := step_end hr.notMem hdrop hne (hr.expanded.trans_le hlen)
      simp [run, hstep, hr.consumedEnd, nameBytes, bind, Except.bind, pure, Except.pure]
  | cons label rest ih =>
    cases turns with
    | zero => simp [run]
    | succ turns =>
      have hlabel := hlow label List.mem_cons_self
      have hbytes : wire.drop r.cursor =
          UInt8.ofNat label.length :: (label ++ (nameBytes rest ++ tail)) := by
        rw [hdrop, nameBytes]
        simp
      have hstep := step_label hr.notMem (ha label List.mem_cons_self) hbytes
      rw [hlabel] at hstep
      have hnext := straight_next hr label
      rw [run, hstep]
      simp only [bind, Except.bind]
      rw [ih hnext (fun l hl => ha l (List.mem_cons_of_mem _ hl))
        (fun l hl => hlow l (List.mem_cons_of_mem _ hl)) ?_ (by simp)
        (by simpa only [List.append_assoc, List.singleton_append] using hlen)]
      · have hassoc : r.labels ++ [label] ++ rest = r.labels ++ label :: rest := by simp
        have hcursor : r.cursor + 1 + label.length + (nameBytes rest).length =
            r.cursor + (nameBytes (label :: rest)).length := by
          simp only [nameBytes, List.cons_append, List.length_cons, List.length_append]
          omega
        simp only [hassoc, hcursor, List.length_cons, Nat.add_lt_add_iff_right]
      · rw [Nat.add_assoc, ← List.drop_drop, hbytes, Nat.add_comm 1, List.drop_succ_cons]
        exact List.drop_left

end NameReader

lemma readName_eq {wire tail : Bytes} {offset : ℕ} (h : Canonical parsesAsIp name)
    (hdrop : wire.drop offset = nameBytes (name.splitOn dot) ++ tail) :
    readName wire offset = if (name.splitOn dot).length ≤ 16 then
        .ok (name, offset + (nameBytes (name.splitOn dot)).length)
      else .error .dnsFailure := by
  have hjoin : [dot].intercalate ([] ++ name.splitOn dot) = name := List.intercalate_splitOn dot
  have hrun := NameReader.run_labels (NameReader.straight_start offset) h.allowed h.lowercase hdrop
    (by simp [NameReader.start]) (by simpa only [NameReader.start, hjoin] using h.length)
    readNameTurns
  simp only [NameReader.start, hjoin, readNameTurns, Nat.lt_succ_iff] at hrun
  exact hrun

def queryHeader (id : UInt16) : Bytes := beBytes16 id ++ [1, 0, 0, 1, 0, 0, 0, 0, 0, 0]

def questionBytes (name : Bytes) (recordType : UInt16) : Bytes :=
  nameBytes (name.splitOn dot) ++ (beBytes16 recordType ++ beBytes16 classIn)

lemma buildQuery_eq (h : Canonical parsesAsIp name) (id recordType : UInt16) :
    buildQuery id name recordType = .ok (queryHeader id ++ questionBytes name recordType) := by
  rw [buildQuery, encodeName, encodeLabels_eq h.allowed]
  simp only [bind, Except.bind, pure, Except.pure, queryHeader, questionBytes, List.append_assoc]
  rfl

lemma length_questionBytes (name : Bytes) (recordType : UInt16) :
    (questionBytes name recordType).length = name.length + 6 := by
  have hname := length_nameBytes (List.splitOn_ne_nil dot name)
  rw [List.intercalate_splitOn] at hname
  simp [questionBytes, hname]

lemma validateClientQuery_eq {rest : Bytes} {maxBytes : ℕ} (id : UInt16)
    (hlen : 12 + rest.length ≤ maxBytes) :
    validateClientQuery parsesAsIp (queryHeader id ++ rest) maxBytes = (do
      let (name, cursor) ← readName (queryHeader id ++ rest) 12
      if cursor + 4 ≠ 12 + rest.length then
        throw .protocolViolation
      let _ ← canonicalHostname parsesAsIp name
      return ⟨id, name⟩) := by
  have hlength : (queryHeader id ++ rest).length = 12 + rest.length := by
    rw [List.length_append]
    rfl
  have hid : readU16 (queryHeader id ++ rest) 0 = .ok id :=
    congrArg Except.ok (fromBe16_beBytes16 id)
  have hflags : readU16 (queryHeader id ++ rest) 2 = .ok 256 := rfl
  have hquestions : readU16 (queryHeader id ++ rest) 4 = .ok 1 := rfl
  have hanswers : readU16 (queryHeader id ++ rest) 6 = .ok 0 := rfl
  have hauthorities : readU16 (queryHeader id ++ rest) 8 = .ok 0 := rfl
  have hadditional : readU16 (queryHeader id ++ rest) 10 = .ok 0 := rfl
  have hsize : ¬ ((queryHeader id ++ rest).length < dnsHeaderBytes ∨
      maxBytes < (queryHeader id ++ rest).length) := by
    rw [hlength, dnsHeaderBytes]
    omega
  have hheader : ¬ ((256 : UInt16) &&& 0x8000 ≠ 0 ∨ (1 : UInt16) ≠ 1 ∨ (0 : UInt16) ≠ 0 ∨
      (0 : UInt16) ≠ 0 ∨ (0 : UInt16) ≠ 0) := by decide
  rw [validateClientQuery, if_neg hsize, hflags, hquestions, hanswers, hauthorities, hadditional,
    hid, hlength]
  simp only [bind, Except.bind, if_neg hheader, dnsHeaderBytes]

structure RoundTrips (parsesAsIp : Bytes → Bool) (maxBytes : ℕ) (id recordType : UInt16)
    (name : Bytes) : Prop where
  accepted : ∃ query, buildQuery id name recordType = .ok query ∧
    validateClientQuery parsesAsIp query maxBytes = .ok ⟨id, name⟩ ∧
    ∃ encoded, encodeName name = .ok encoded ∧
      ∀ wire tail : Bytes, wire.drop 12 = query.drop 12 ++ tail →
        readName wire 12 = .ok (name, 12 + encoded.length)

lemma roundTrips_iff (h : Canonical parsesAsIp name) {maxBytes : ℕ} (hmax : 512 ≤ maxBytes)
    (id recordType : UInt16) :
    RoundTrips parsesAsIp maxBytes id recordType name ↔ (name.splitOn dot).length ≤ 16 := by
  have hquery := buildQuery_eq h id recordType
  have hdrop : (queryHeader id ++ questionBytes name recordType).drop 12 =
      questionBytes name recordType := List.drop_left' rfl
  have hecho : ∀ wire tail : Bytes, wire.drop 12 = questionBytes name recordType ++ tail →
      readName wire 12 = if (name.splitOn dot).length ≤ 16 then
          .ok (name, 12 + (nameBytes (name.splitOn dot)).length)
        else .error .dnsFailure := by
    intro wire tail hwire
    rw [questionBytes, List.append_assoc] at hwire
    exact readName_eq h hwire
  have hself := hecho _ [] (hdrop.trans (List.append_nil _).symm)
  have hlength := length_questionBytes name recordType
  have hname := length_nameBytes (List.splitOn_ne_nil dot name)
  rw [List.intercalate_splitOn] at hname
  have hsize : 12 + (questionBytes name recordType).length ≤ maxBytes := by
    have := h.length
    omega
  have hvalidate := @validateClientQuery_eq parsesAsIp _ _ id hsize
  constructor
  · rintro ⟨query, hq, hvalid, -⟩
    obtain rfl := Except.ok.inj (hquery.symm.trans hq)
    by_contra hmany
    rw [if_neg hmany] at hself
    rw [hvalidate, hself] at hvalid
    cases hvalid
  · intro hfew
    rw [if_pos hfew, hname] at hself
    refine ⟨_, hquery, ?_, _, encodeLabels_eq h.allowed, ?_⟩
    · have hend : ¬ 12 + (name.length + 2) + 4 ≠ 12 + (name.length + 6) := by omega
      rw [hvalidate, hself, hlength]
      simp only [bind, Except.bind, if_neg hend, h.canonicalHostname_eq]
      rfl
    · intro wire tail hwire
      rw [hdrop] at hwire
      rw [hecho wire tail hwire, if_pos hfew]

/-- A canonical name survives the wire exactly when it has at most sixteen labels. -/
theorem name_round_trips_iff {parsesAsIp : Bytes → Bool} {hostname name : Bytes}
    (hip : ∀ text, parsesAsIp (text.map toAsciiLowercase) = parsesAsIp text)
    (h : canonicalHostname parsesAsIp hostname = .ok name) (config : DnsConfig)
    (id recordType : UInt16) :
    RoundTrips parsesAsIp config.maxResponseBytes id recordType name ↔
      ((stripDot hostname).splitOn dot).length ≤ 16 := by
  rw [roundTrips_iff (Canonical.of_eq_ok hip h) config.maxResponseBytes_range.1]
  obtain ⟨-, -, -, -, hall, rfl⟩ := canonicalHostname_eq_ok.mp h
  rw [splitOn_lowercase hall, List.length_map]

namespace Sample

def isQuadByte (b : UInt8) : Bool := (48 ≤ b && b ≤ 57) || b == dot

def dottedQuad (text : Bytes) : Bool :=
  text.all isQuadByte && (text.splitOn dot).length == 4 && (text.splitOn dot).all fun digits =>
    digits ≠ [] && digits.length ≤ 3 && digits.foldl (fun n b => n * 10 + (b.toNat - 48)) 0 < 256

lemma isQuadByte_lowercase : ∀ b, isQuadByte (toAsciiLowercase b) = isQuadByte b :=
  forall_byte (by decide +kernel)

lemma lowercase_of_isQuadByte : ∀ b, isQuadByte b = true → toAsciiLowercase b = b :=
  forall_byte (by decide +kernel)

lemma dottedQuad_lowercase (text : Bytes) :
    dottedQuad (text.map toAsciiLowercase) = dottedQuad text := by
  by_cases h : text.all isQuadByte = true
  · have hmap : text.map toAsciiLowercase = text := by
      conv_rhs => rw [← List.map_id text]
      exact List.map_congr_left fun b hb => lowercase_of_isQuadByte b (List.all_eq_true.mp h b hb)
    rw [hmap]
  · have hlow : (text.map toAsciiLowercase).all isQuadByte = text.all isQuadByte := by
      simp only [List.all_map, Function.comp_def, isQuadByte_lowercase]
    simp only [dottedQuad, hlow, Bool.eq_false_iff.mpr h, Bool.false_and]

def seventeen : Bytes := [dot].intercalate (List.replicate 17 (ascii "a"))

end Sample

open Sample in
theorem name_round_trips_example :
    canonicalHostname dottedQuad (ascii "Example.COM.") = .ok (ascii "example.com") ∧
      RoundTrips dottedQuad 16384 7 typeA (ascii "example.com") := by
  have hcanonical : canonicalHostname dottedQuad (ascii "Example.COM.") =
      .ok (ascii "example.com") := by rfl
  have hiff := name_round_trips_iff dottedQuad_lowercase hcanonical {} 7 typeA
  exact ⟨hcanonical, hiff.mpr (by decide)⟩

open Sample in
theorem name_lost : canonicalHostname dottedQuad seventeen = .ok seventeen ∧
    ∃ query, buildQuery 7 seventeen typeA = .ok query ∧
      validateClientQuery dottedQuad query 16384 = .error .dnsFailure ∧
      readName query 12 = .error .dnsFailure := by
  refine ⟨by rfl, _, rfl, by rfl, by rfl⟩

end OnionRoute.GatewayDaemon
