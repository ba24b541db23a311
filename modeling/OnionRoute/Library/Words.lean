import Mathlib.Tactic

/-! Bytes, fixed-width words, serial comparison and saturating counters. -/

namespace OnionRoute.Library

abbrev Bytes := List UInt8

def nanosPerSecond : ℕ := 1000000000

def isAsciiAlphanumeric (b : UInt8) : Bool :=
  (97 ≤ b && b ≤ 122) || (65 ≤ b && b ≤ 90) || (48 ≤ b && b ≤ 57)

def toAsciiLowercase (b : UInt8) : UInt8 := if 65 ≤ b ∧ b ≤ 90 then b + 32 else b

def beBytes16 (n : UInt16) : List UInt8 :=
  [UInt8.ofNat (n.toNat / 256), UInt8.ofNat n.toNat]

def beBytes32 (n : UInt32) : List UInt8 :=
  [UInt8.ofNat (n.toNat / 16777216), UInt8.ofNat (n.toNat / 65536),
    UInt8.ofNat (n.toNat / 256), UInt8.ofNat n.toNat]

def fromBe16 (a b : UInt8) : UInt16 :=
  UInt16.ofNat (a.toNat * 256 + b.toNat)

def fromBe32 (a b c d : UInt8) : UInt32 :=
  UInt32.ofNat (a.toNat * 16777216 + b.toNat * 65536 + c.toNat * 256 + d.toNat)

@[simp] lemma beBytes16_length (n : UInt16) : (beBytes16 n).length = 2 := rfl

@[simp] lemma beBytes32_length (n : UInt32) : (beBytes32 n).length = 4 := rfl

lemma fromBe16_toNat (a b : UInt8) : (fromBe16 a b).toNat = a.toNat * 256 + b.toNat := by
  have ha := a.toNat_lt
  have hb := b.toNat_lt
  rw [fromBe16, UInt16.toNat_ofNat']
  omega

@[simp] lemma fromBe16_beBytes16 (n : UInt16) :
    fromBe16 (UInt8.ofNat (n.toNat / 256)) (UInt8.ofNat n.toNat) = n := by
  have hn := n.toNat_lt
  apply UInt16.toNat_inj.mp
  rw [fromBe16_toNat, UInt8.toNat_ofNat', UInt8.toNat_ofNat']
  omega

@[simp] lemma fromBe32_beBytes32 (n : UInt32) :
    fromBe32 (UInt8.ofNat (n.toNat / 16777216)) (UInt8.ofNat (n.toNat / 65536))
      (UInt8.ofNat (n.toNat / 256)) (UInt8.ofNat n.toNat) = n := by
  have hn := n.toNat_lt
  apply UInt32.toNat_inj.mp
  simp only [fromBe32, UInt32.toNat_ofNat', UInt8.toNat_ofNat']
  omega

lemma fromBe32_toNat (a b c d : UInt8) : (fromBe32 a b c d).toNat =
    a.toNat * 16777216 + b.toNat * 65536 + c.toNat * 256 + d.toNat := by
  have ha := a.toNat_lt
  have hb := b.toNat_lt
  have hc := c.toNat_lt
  have hd := d.toNat_lt
  rw [fromBe32, UInt32.toNat_ofNat']
  omega

@[simp] lemma beBytes16_fromBe16 (a b : UInt8) : beBytes16 (fromBe16 a b) = [a, b] := by
  have ha := a.toNat_lt
  have hb := b.toNat_lt
  have hhigh : UInt8.ofNat ((fromBe16 a b).toNat / 256) = a := by
    rw [← UInt8.toNat_inj, UInt8.toNat_ofNat', fromBe16_toNat]
    omega
  have hlow : UInt8.ofNat (fromBe16 a b).toNat = b := by
    rw [← UInt8.toNat_inj, UInt8.toNat_ofNat', fromBe16_toNat]
    omega
  rw [beBytes16, hhigh, hlow]

@[simp] lemma beBytes32_fromBe32 (a b c d : UInt8) :
    beBytes32 (fromBe32 a b c d) = [a, b, c, d] := by
  have ha := a.toNat_lt
  have hb := b.toNat_lt
  have hc := c.toNat_lt
  have hd := d.toNat_lt
  simp only [beBytes32, List.cons.injEq, and_true, ← UInt8.toNat_inj, UInt8.toNat_ofNat',
    fromBe32_toNat]
  omega

lemma beBytes16_inj {m n : UInt16} (h : beBytes16 m = beBytes16 n) : m = n := by
  obtain ⟨hhigh, hlow, -⟩ : UInt8.ofNat (m.toNat / 256) = UInt8.ofNat (n.toNat / 256) ∧
      UInt8.ofNat m.toNat = UInt8.ofNat n.toNat ∧ True := by simpa [beBytes16] using h
  rw [← fromBe16_beBytes16 m, hhigh, hlow, fromBe16_beBytes16]

lemma beBytes32_inj {m n : UInt32} (h : beBytes32 m = beBytes32 n) : m = n := by
  simp only [beBytes32, List.cons.injEq, and_true] at h
  obtain ⟨h₁, h₂, h₃, h₄⟩ := h
  rw [← fromBe32_beBytes32 m, h₁, h₂, h₃, h₄, fromBe32_beBytes32]

lemma toNat_min (a b : UInt32) : (min a b).toNat = min a.toNat b.toNat := by
  change (if a ≤ b then a else b).toNat = _
  split_ifs with h
  · exact (min_eq_left (UInt32.le_iff_toNat_le.mp h)).symm
  · exact (min_eq_right (UInt32.lt_iff_toNat_lt.mp (UInt32.not_le.mp h)).le).symm

lemma toNat_max (a b : UInt32) : (max a b).toNat = max a.toNat b.toNat := by
  change (if a ≤ b then b else a).toNat = _
  split_ifs with h
  · exact (max_eq_right (UInt32.le_iff_toNat_le.mp h)).symm
  · exact (max_eq_left (UInt32.lt_iff_toNat_lt.mp (UInt32.not_le.mp h)).le).symm

def serialBefore (left right : UInt32) : Bool :=
  (left - right).toInt32 < 0

def u64Max : ℕ := 18446744073709551615

def saturatingAdd (a b : ℕ) : ℕ :=
  min (a + b) u64Max

def serialOffset (base n : UInt32) : ℕ :=
  (n - base).toNat

lemma serialOffset_lt (base n : UInt32) : serialOffset base n < 4294967296 :=
  (n - base).toNat_lt

lemma add_serialOffset (base n : UInt32) : base + UInt32.ofNat (serialOffset base n) = n := by
  rw [serialOffset, UInt32.ofNat_toNat, UInt32.add_comm, UInt32.sub_add_cancel]

lemma serialOffset_add (base : UInt32) {n : ℕ} (h : n < 4294967296) :
    serialOffset base (base + UInt32.ofNat n) = n := by
  rw [serialOffset, UInt32.add_comm, UInt32.add_sub_cancel, UInt32.toNat_ofNat']
  exact Nat.mod_eq_of_lt h

lemma add_ofNat_add_ofNat (base : UInt32) (m n : ℕ) :
    base + UInt32.ofNat m + UInt32.ofNat n = base + UInt32.ofNat (m + n) := by
  rw [UInt32.add_assoc, UInt32.ofNat_add]

lemma add_ofNat_inj {base : UInt32} {m n : ℕ} (hm : m < 4294967296) (hn : n < 4294967296)
    (h : base + UInt32.ofNat m = base + UInt32.ofNat n) : m = n := by
  rw [← serialOffset_add base hm, h, serialOffset_add base hn]

lemma serialBefore_iff (l r : UInt32) : serialBefore l r = true ↔ 2147483648 ≤ (l - r).toNat := by
  have hlt := (l - r).toNat_lt
  have hint : (l - r).toInt32.toInt = (l - r).toBitVec.toInt := rfl
  have hnat : (l - r).toBitVec.toNat = (l - r).toNat := rfl
  have hz : (0 : Int32).toInt = 0 := rfl
  rw [serialBefore, decide_eq_true_iff, Int32.lt_iff_toInt_lt, hint, hz,
    BitVec.toInt_eq_toNat_cond, hnat]
  split_ifs <;> omega

lemma serialBefore_of_offset {l r : UInt32} (h : 0 < serialOffset l r)
    (hle : serialOffset l r ≤ 2147483648) : serialBefore l r = true := by
  have hl := l.toNat_lt
  have hr := r.toNat_lt
  rw [serialBefore_iff]
  rw [serialOffset, UInt32.toNat_sub] at h hle
  rw [UInt32.toNat_sub]
  omega

lemma forall_byte {p : UInt8 → Prop} (h : ∀ n < 256, p (UInt8.ofNat n)) (b : UInt8) : p b := by
  simpa using h b.toNat b.toNat_lt

section Intercalate

variable {α β : Type}

lemma map_intercalate (f : α → β) (sep : List α) (xs : List (List α)) :
    (sep.intercalate xs).map f = (sep.map f).intercalate (xs.map (List.map f)) := by
  induction xs with
  | nil => rfl
  | cons x rest ih =>
    cases rest with
    | nil => simp [List.intercalate_singleton]
    | cons y rest =>
      rw [List.intercalate_cons_cons, List.map_append, ih]
      simp [List.intercalate_cons_cons]

lemma intercalate_concat (sep : List α) {xs : List (List α)} (h : xs ≠ []) (x : List α) :
    sep.intercalate (xs ++ [x]) = sep.intercalate xs ++ sep ++ x := by
  induction xs with
  | nil => exact absurd rfl h
  | cons y rest ih =>
    cases rest with
    | nil => simp [List.intercalate_cons_cons, List.intercalate_singleton]
    | cons z rest =>
      have hrest := ih (List.cons_ne_nil z rest)
      simp only [List.cons_append] at hrest ⊢
      rw [List.intercalate_cons_cons, hrest, List.intercalate_cons_cons]
      simp only [List.append_assoc]

end Intercalate

end OnionRoute.Library
