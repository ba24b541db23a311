import OnionRoute.DnsEngine.Wire

/-! Reading names: the loop always ends, and a name is labels up to a zero or a pointer. -/

namespace OnionRoute.DnsEngine

open Library CommonTypes NameReader

namespace NameReader

variable {wire : Bytes} {r next : NameReader} {result : String × ℕ}

inductive Reads (wire : Bytes) : NameReader → String × ℕ → Prop
  | done {r : NameReader} {result : String × ℕ} : r.step wire = .ok (.inr result) →
      Reads wire r result
  | more {r next : NameReader} {result : String × ℕ} : r.step wire = .ok (.inl next) →
      Reads wire next result → Reads wire r result

inductive Moves (wire : Bytes) (r : NameReader) : NameReader → Prop
  | jump (length second : UInt8) : wire[r.cursor]? = some length → length &&& 0xc0 = 0xc0 →
      wire[r.cursor + 1]? = some second →
      (length &&& 0x3f).toNat * 256 + second.toNat < wire.length → r.jumps < 16 →
      Moves wire r { r with
        cursor := (length &&& 0x3f).toNat * 256 + second.toNat
        consumedEnd := some (r.consumedEnd.getD (r.cursor + 2))
        jumps := r.jumps + 1 }
  | label (length : UInt8) : wire[r.cursor]? = some length → length &&& 0xc0 = 0 → length ≠ 0 →
      length.toNat ≤ 63 → r.cursor + 1 + length.toNat ≤ wire.length →
      labelText ((wire.drop (r.cursor + 1)).take length.toNat) = true →
      Moves wire r { r with
        cursor := r.cursor + 1 + length.toNat
        labels := r.labels ++ [((wire.drop (r.cursor + 1)).take length.toNat).map toAsciiLowercase]
        expandedLen := r.expandedLen + length.toNat + 1 }

lemma moves_of_step (h : r.step wire = .ok (.inl next)) : Moves wire r next := by
  rw [step] at h
  split at h
  · cases h
  · rename_i length hlength
    split_ifs at h with hpointer hhigh hzero hempty hlong
    · split at h
      · cases h
      · rename_i second hsecond
        simp only at h
        split_ifs at h with hbad
        obtain rfl := Sum.inl.inj (Except.ok.inj h)
        exact .jump length second hlength hpointer hsecond (by omega) (by omega)
    · cases h
    · simp only at h
      split_ifs at h with htext
      obtain rfl := Sum.inl.inj (Except.ok.inj h)
      exact .label length hlength (not_not.mp hhigh) hzero (by omega) (by omega)
        htext

lemma step_eq_done (h : r.step wire = .ok (.inr result)) :
    wire[r.cursor]? = some 0 ∧ r.labels ≠ [] ∧ r.expandedLen ≤ 253 ∧
      result = (text ([46].intercalate r.labels), r.consumedEnd.getD (r.cursor + 1)) := by
  rw [step] at h
  split at h
  · cases h
  · rename_i length hlength
    split_ifs at h with hpointer hhigh hzero hempty hlong
    · split at h
      · cases h
      · simp only at h
        split_ifs at h
        cases h
    · subst hzero
      exact ⟨hlength, fun h' => hempty (.inl h'), by omega, (Sum.inr.inj (Except.ok.inj h)).symm⟩
    · simp only at h
      split_ifs at h
      cases h

def weight (wire : Bytes) (r : NameReader) : ℕ :=
  (16 - r.jumps) * (wire.length + 1) + (wire.length - r.cursor)

lemma Moves.weight_lt (h : Moves wire r next) : next.weight wire < r.weight wire := by
  cases h with
  | jump length second _ _ _ hoffset hjumps =>
    obtain ⟨k, hk⟩ : ∃ k, 16 - r.jumps = k + 1 := ⟨15 - r.jumps, by omega⟩
    have hk' : 16 - (r.jumps + 1) = k := by omega
    simp only [weight, hk, hk', Nat.succ_mul]
    omega
  | label length hlength _ hne _ hend _ =>
    have hpos : 0 < length.toNat := Nat.pos_of_ne_zero fun h => hne (UInt8.toNat_inj.mp h)
    simp only [weight]
    omega

variable {turns : ℕ}

lemma run_isSome (h : r.weight wire < turns) : ∃ x, r.run wire turns = some x := by
  induction turns generalizing r with
  | zero => omega
  | succ turns ih =>
    rw [run]
    cases hstep : r.step wire with
    | error e => exact ⟨_, rfl⟩
    | ok next =>
      cases next with
      | inr result => exact ⟨_, rfl⟩
      | inl next => exact ih (by have := (moves_of_step hstep).weight_lt; omega)

lemma reads_of_run (h : r.run wire turns = some (.ok result)) : Reads wire r result := by
  induction turns generalizing r with
  | zero => cases h
  | succ turns ih =>
    rw [run] at h
    cases hstep : r.step wire with
    | error e =>
      rw [hstep] at h
      cases h
    | ok next =>
      rw [hstep] at h
      cases next with
      | inr result' =>
        obtain rfl := Except.ok.inj (Option.some.inj h)
        exact .done hstep
      | inl next => exact .more hstep (ih h)

lemma Reads.run (h : Reads wire r result) {x : OnionResult (String × ℕ)}
    (hx : r.run wire turns = some x) : x = .ok result := by
  induction h generalizing turns with
  | done hstep =>
    cases turns with
    | zero => cases hx
    | succ turns =>
      rw [run, hstep] at hx
      exact (Option.some.inj hx).symm
  | more hstep _ ih =>
    cases turns with
    | zero => cases hx
    | succ turns =>
      rw [run, hstep] at hx
      exact ih hx

end NameReader

open NameReader

lemma run_enough (wire : Bytes) (start : ℕ) :
    (NameReader.start start).run wire (enough wire) = some (readName wire start) := by
  have henough : (NameReader.start start).weight wire < enough wire := by
    simp only [weight, enough, NameReader.start]
    omega
  obtain ⟨x, hx⟩ := run_isSome henough
  rw [readName, hx, Option.getD_some]

variable {wire : Bytes}

lemma readName_eq_ok {start : ℕ} {result : String × ℕ} :
    readName wire start = .ok result ↔ Reads wire (.start start) result := by
  have hx := run_enough wire start
  constructor
  · intro h
    rw [h] at hx
    exact reads_of_run hx
  · intro h
    exact h.run hx

inductive EncodedName : Bytes → Prop
  | root : EncodedName [0]
  | pointer (a b : UInt8) : a &&& 0xc0 = 0xc0 → EncodedName [a, b]
  | label (length : UInt8) (octets rest : Bytes) : length &&& 0xc0 = 0 → length ≠ 0 →
      octets.length = length.toNat → EncodedName rest → EncodedName (length :: (octets ++ rest))

lemma EncodedName.inj {a b x y : Bytes} (ha : EncodedName a) (hb : EncodedName b)
    (h : a ++ x = b ++ y) : a = b ∧ x = y := by
  induction ha generalizing b with
  | root =>
    cases hb with
    | root => exact ⟨rfl, by simpa using h⟩
    | pointer p q hp =>
      obtain rfl : (0 : UInt8) = p := by simpa using congrArg List.head? h
      exact absurd hp (by decide)
    | label length octets rest _ hne _ _ =>
      obtain rfl : (0 : UInt8) = length := by simpa using congrArg List.head? h
      exact absurd rfl hne
  | pointer p q hp =>
    cases hb with
    | root =>
      obtain rfl : p = 0 := by simpa using congrArg List.head? h
      exact absurd hp (by decide)
    | pointer p' q' _ =>
      obtain ⟨rfl, rfl, rfl⟩ : p = p' ∧ q = q' ∧ x = y := by simpa using h
      exact ⟨rfl, rfl⟩
    | label length octets rest hlow _ _ _ =>
      obtain rfl : p = length := by simpa using congrArg List.head? h
      rw [hlow] at hp
      exact absurd hp (by decide)
  | label length octets rest hlow hne hlen _ ih =>
    cases hb with
    | root =>
      obtain rfl : length = 0 := by simpa using congrArg List.head? h
      exact absurd rfl hne
    | pointer p q hp =>
      obtain rfl : length = p := by simpa using congrArg List.head? h
      rw [hlow] at hp
      exact absurd hp (by decide)
    | label length' octets' rest' _ _ hlen' hrest' =>
      rw [List.cons_append, List.cons_append] at h
      obtain ⟨rfl, htail⟩ := List.cons.inj h
      rw [List.append_assoc, List.append_assoc] at htail
      obtain ⟨rfl, hrest⟩ := List.append_inj htail (hlen.trans hlen'.symm)
      obtain ⟨rfl, rfl⟩ := ih hrest' hrest
      exact ⟨rfl, rfl⟩

variable {cursor : ℕ}

lemma drop_label {length : UInt8} (h : wire[cursor]? = some length) (n : ℕ) :
    wire.drop cursor =
      length :: ((wire.drop (cursor + 1)).take n ++ wire.drop (cursor + 1 + n)) := by
  obtain ⟨hlt, rfl⟩ := List.getElem?_eq_some_iff.mp h
  have hrest : wire.drop (cursor + 1 + n) = (wire.drop (cursor + 1)).drop n := List.drop_drop.symm
  rw [List.drop_eq_getElem_cons hlt, hrest, List.take_append_drop]

lemma drop_pointer {a b : UInt8} (ha : wire[cursor]? = some a) (hb : wire[cursor + 1]? = some b) :
    wire.drop cursor = [a, b] ++ wire.drop (cursor + 2) := by
  rw [drop_label ha 0, List.take_zero, List.nil_append, Nat.add_zero, drop_label hb 0]
  rfl

inductive OwnEnd (wire : Bytes) : ℕ → ℕ → Prop
  | root {cursor : ℕ} : wire[cursor]? = some 0 → OwnEnd wire cursor (cursor + 1)
  | pointer {cursor : ℕ} {a b : UInt8} : wire[cursor]? = some a → a &&& 0xc0 = 0xc0 →
      wire[cursor + 1]? = some b → OwnEnd wire cursor (cursor + 2)
  | label {cursor finish : ℕ} {length : UInt8} : wire[cursor]? = some length → length &&& 0xc0 = 0 →
      length ≠ 0 → cursor + 1 + length.toNat ≤ wire.length →
      OwnEnd wire (cursor + 1 + length.toNat) finish → OwnEnd wire cursor finish

variable {finish : ℕ}

lemma OwnEnd.encoded (h : OwnEnd wire cursor finish) :
    ∃ name, EncodedName name ∧ wire.drop cursor = name ++ wire.drop finish := by
  induction h with
  | root hzero => exact ⟨[0], .root, drop_label hzero 0⟩
  | pointer ha hpointer hb => exact ⟨_, .pointer _ _ hpointer, drop_pointer ha hb⟩
  | @label cursor finish length hlength hlow hne hbound _ ih =>
    obtain ⟨name, hname, hdrop⟩ := ih
    refine ⟨_, .label length ((wire.drop (cursor + 1)).take length.toNat) name hlow hne ?_ hname, ?_⟩
    · rw [List.length_take, List.length_drop]
      omega
    · rw [drop_label hlength length.toNat, List.cons_append, List.append_assoc, ← hdrop]

lemma OwnEnd.bounds (h : OwnEnd wire cursor finish) : cursor < finish ∧ finish ≤ wire.length := by
  induction h with
  | root hzero => exact ⟨Nat.lt_succ_self _, (List.getElem?_eq_some_iff.mp hzero).1⟩
  | pointer _ _ hb => exact ⟨by omega, (List.getElem?_eq_some_iff.mp hb).1⟩
  | label _ _ _ _ _ ih => exact ⟨by omega, ih.2⟩

namespace NameReader

variable {wire : Bytes} {r next : NameReader} {result : String × ℕ}

lemma Reads.end_of_jumped (h : Reads wire r result) (hend : r.consumedEnd = some finish) :
    result.2 = finish := by
  induction h with
  | done hstep =>
    rw [(step_eq_done hstep).2.2.2, hend]
    rfl
  | more hstep _ ih =>
    refine ih ?_
    cases moves_of_step hstep with
    | jump length second _ _ _ _ _ => rw [hend]; rfl
    | label length _ _ _ _ _ _ => exact hend

lemma Reads.ownEnd (h : Reads wire r result) (hend : r.consumedEnd = none) :
    OwnEnd wire r.cursor result.2 := by
  induction h with
  | done hstep =>
    obtain ⟨hzero, -, -, hresult⟩ := step_eq_done hstep
    rw [hresult, hend]
    exact .root hzero
  | @more r next result hstep hreads ih =>
    cases moves_of_step hstep with
    | jump length second hlength hpointer hsecond _ _ =>
      have hfinish : result.2 = r.cursor + 2 := hreads.end_of_jumped (by rw [hend]; rfl)
      rw [hfinish]
      exact .pointer hlength hpointer hsecond
    | label length hlength hlow hne _ hbound _ => exact .label hlength hlow hne hbound (ih hend)

end NameReader

lemma skipLabels_ownEnd {left : ℕ} (h : skipLabels wire left cursor = .ok finish) :
    OwnEnd wire cursor finish := by
  induction left generalizing cursor with
  | zero =>
    rw [skipLabels.eq_def] at h
    cases hlength : wire[cursor]? with
    | none =>
      simp only [hlength] at h
      cases h
    | some length =>
      simp only [hlength] at h
      split_ifs at h with hpointer hsecond
      obtain ⟨second, hsecond⟩ := Option.ne_none_iff_exists'.mp hsecond
      obtain rfl := Except.ok.inj h
      exact .pointer hlength hpointer hsecond
  | succ left ih =>
    rw [skipLabels.eq_def] at h
    cases hlength : wire[cursor]? with
    | none =>
      simp only [hlength] at h
      cases h
    | some length =>
      simp only [hlength] at h
      split_ifs at h with hpointer hsecond hhigh hzero hbound
      · obtain ⟨second, hsecond⟩ := Option.ne_none_iff_exists'.mp hsecond
        obtain rfl := Except.ok.inj h
        exact .pointer hlength hpointer hsecond
      · obtain rfl := Except.ok.inj h
        exact .root (hzero ▸ hlength)
      · exact .label hlength (not_not.mp hhigh) hzero (not_lt.mp hbound) (ih h)

section Labels

def nameBytes : List Bytes → Bytes
  | [] => [0]
  | label :: rest => UInt8.ofNat label.length :: (label ++ nameBytes rest)

def HostLabel (label : Bytes) : Prop :=
  1 ≤ label.length ∧ label.length ≤ 63 ∧ labelText label = true

instance : DecidablePred HostLabel := fun _ => inferInstanceAs (Decidable (_ ∧ _))

def countedLen (labels : List Bytes) : ℕ := (labels.map fun label => label.length + 1).sum

variable {labels : List Bytes}

lemma countedLen_eq (h : labels ≠ []) :
    countedLen labels = ([46].intercalate labels).length + 1 := by
  induction labels with
  | nil => exact absurd rfl h
  | cons label rest ih =>
    cases rest with
    | nil => simp [countedLen, List.intercalate_singleton]
    | cons next rest =>
      have hrest := ih (List.cons_ne_nil _ _)
      rw [countedLen] at hrest
      rw [countedLen, List.map_cons, List.sum_cons, hrest, List.intercalate_cons_cons]
      simp only [List.length_append, List.length_singleton]
      omega

def NameReader.push (r : NameReader) (label : Bytes) : NameReader :=
  { r with
    cursor := r.cursor + 1 + label.length
    labels := r.labels ++ [label.map toAsciiLowercase]
    expandedLen := r.expandedLen + label.length + 1 }

variable {r : NameReader}

lemma step_label {label : Bytes} (front back : Bytes) (hcursor : r.cursor = front.length)
    (hlabel : HostLabel label) :
    r.step (front ++ (UInt8.ofNat label.length :: (label ++ back))) = .ok (.inl (r.push label)) := by
  obtain ⟨hpos, hle, htext⟩ := hlabel
  have hlength : (UInt8.ofNat label.length).toNat = label.length :=
    UInt8.toNat_ofNat_of_lt' (by rw [UInt8.size]; omega)
  have hlow : UInt8.ofNat label.length &&& 0xc0 = 0 := by
    have hall : ∀ n < 64, UInt8.ofNat n &&& 0xc0 = 0 := by decide
    exact hall _ (by omega)
  have hzero : UInt8.ofNat label.length ≠ 0 := fun h => by
    rw [h] at hlength
    exact absurd hlength.symm (by simpa using Nat.ne_of_gt hpos)
  have hget : (front ++ (UInt8.ofNat label.length :: (label ++ back)))[r.cursor]? =
      some (UInt8.ofNat label.length) := by simp [hcursor]
  have htake : ((front ++ (UInt8.ofNat label.length :: (label ++ back))).drop
      (r.cursor + 1)).take label.length = label := by
    rw [hcursor, ← List.drop_drop, List.drop_left, List.drop_one, List.tail_cons, List.take_left]
  have hbound : ¬ (63 < label.length ∨ (front ++ (UInt8.ofNat label.length ::
      (label ++ back))).length < r.cursor + 1 + label.length) := by
    simp only [List.length_append, List.length_cons, hcursor]
    omega
  rw [step, hget]
  simp only [hlow, hlength, htake, htext, hzero, if_neg hbound, if_false, not_true, ne_eq,
    show ¬ (0 : UInt8) = 0xc0 from by decide]
  rfl

variable {result : String × ℕ}

lemma reads_of_step {next : NameReader} (h : r.step wire = .ok (.inl next)) :
    Reads wire r result ↔ Reads wire next result := by
  refine ⟨fun hreads => ?_, .more h⟩
  cases hreads with
  | done hstep => cases h.symm.trans hstep
  | more hstep hrest =>
    obtain rfl := Sum.inl.inj (Except.ok.inj (h.symm.trans hstep))
    exact hrest

lemma reads_root (h : wire[r.cursor]? = some 0) :
    Reads wire r result ↔ r.labels ≠ [] ∧ r.expandedLen ≤ 253 ∧
      result = (text ([46].intercalate r.labels), r.consumedEnd.getD (r.cursor + 1)) := by
  constructor
  · intro hreads
    cases hreads with
    | done hstep => exact (step_eq_done hstep).2
    | more hstep _ =>
      cases moves_of_step hstep with
      | jump length second hlength hpointer =>
        obtain rfl := Option.some.inj (h.symm.trans hlength)
        exact absurd hpointer (by decide)
      | label length hlength _ hne =>
        exact absurd (Option.some.inj (h.symm.trans hlength)).symm hne
  · rintro ⟨hne, hlen, rfl⟩
    have hread : ¬ (r.labels = [] ∨ 253 < r.expandedLen) := not_or.mpr ⟨hne, not_lt.mpr hlen⟩
    refine .done ?_
    simp [step, h, hread]

lemma reads_labels_iff (hlabels : ∀ label ∈ labels, HostLabel label) (front back : Bytes)
    (hcursor : r.cursor = front.length) (hend : r.consumedEnd = none) :
    Reads (front ++ (nameBytes labels ++ back)) r result ↔
      r.labels ++ labels ≠ [] ∧ r.expandedLen + countedLen labels ≤ 253 ∧
        result = (text ([46].intercalate (r.labels ++ labels.map (List.map toAsciiLowercase))),
          front.length + (nameBytes labels).length) := by
  induction labels generalizing r front with
  | nil =>
    rw [reads_root (by simp [nameBytes, hcursor]), hend, hcursor]
    simp [countedLen, nameBytes]
  | cons label rest ih =>
    have hstep := step_label front (nameBytes rest ++ back) hcursor (hlabels label List.mem_cons_self)
    have hrest := ih (fun l hl => hlabels l (List.mem_cons_of_mem _ hl)) (r := r.push label)
      (front ++ UInt8.ofNat label.length :: label)
      (by simp only [push, hcursor, List.length_append, List.length_cons]; omega) hend
    have hfinish : (front ++ UInt8.ofNat label.length :: label).length + (nameBytes rest).length =
        front.length + (nameBytes (label :: rest)).length := by
      simp only [nameBytes, List.length_append, List.length_cons]
      omega
    have hnames : (r.push label).labels ++ rest.map (List.map toAsciiLowercase) =
        r.labels ++ (label :: rest).map (List.map toAsciiLowercase) := by simp [push]
    have hcount : (r.push label).expandedLen + countedLen rest =
        r.expandedLen + countedLen (label :: rest) := by
      simp only [push, countedLen, List.map_cons, List.sum_cons]
      omega
    rw [hfinish, hnames, hcount] at hrest
    simp only [List.append_assoc, List.cons_append] at hrest
    rw [nameBytes, List.cons_append, List.append_assoc, reads_of_step hstep, hrest]
    simp [push, nameBytes]

end Labels

theorem readName_nameBytes_iff {labels : List Bytes} (hlabels : ∀ label ∈ labels, HostLabel label)
    (front back : Bytes) : readName (front ++ (nameBytes labels ++ back)) front.length =
      .ok (text (([46].intercalate labels).map toAsciiLowercase),
        front.length + (nameBytes labels).length) ↔
      labels ≠ [] ∧ ([46].intercalate labels).length ≤ 252 := by
  rw [readName_eq_ok, reads_labels_iff hlabels front back rfl rfl, Library.map_intercalate]
  simp only [NameReader.start, List.nil_append, Nat.zero_add]
  refine and_congr_right fun hne => ?_
  rw [countedLen_eq hne]
  exact ⟨fun h => Nat.le_of_succ_le_succ h.1, fun h => ⟨Nat.succ_le_succ h, rfl⟩⟩

theorem readName_example :
    readName (List.replicate 12 0 ++ (nameBytes [[87, 119, 119], [100, 101]] ++ [])) 12 =
      .ok ("www.de", 20) := by
  have hread := (@readName_nameBytes_iff [[87, 119, 119], [100, 101]] (by decide)
    (List.replicate 12 0) []).mpr (by decide)
  rwa [show text (([46].intercalate [[87, 119, 119], [100, 101]]).map toAsciiLowercase) = "www.de" by
    decide] at hread

/-- A dot is counted for the last label too, so that a name of 253 characters is refused. -/
theorem longest_name_refused :
    let labels := [63, 63, 63, 61].map fun n => List.replicate n 97
    (labels.all fun label => HostLabel label) = true ∧ ([46].intercalate labels).length = 253 ∧
      readName (nameBytes labels) 0 = .error (malformed "DNS hostname length is invalid") := by
  decide +kernel

end OnionRoute.DnsEngine
