import OnionRoute.Library.Words

/-! The 16-bit one's-complement sum of a byte string. -/

namespace OnionRoute.Library

def wordSum : List UInt8 → UInt32
  | [] => 0
  | [a] => a.toUInt32 <<< 8
  | a :: b :: rest => (fromBe16 a b).toUInt32 + wordSum rest

def foldCarry : ℕ → UInt32 → UInt32
  | 0, sum => sum
  | n + 1, sum =>
    if sum >>> 16 ≠ 0 then foldCarry n ((sum &&& (0xffff : UInt32)) + (sum >>> 16)) else sum

def natSum : List UInt8 → ℕ
  | [] => 0
  | [a] => a.toNat * 256
  | a :: b :: rest => a.toNat * 256 + b.toNat + natSum rest

lemma natSum_le (bs : List UInt8) : natSum bs ≤ 65535 * ((bs.length + 1) / 2) := by
  induction bs using natSum.induct with
  | case1 => simp [natSum]
  | case2 a =>
    have ha := a.toNat_lt
    simp only [natSum, List.length_singleton]
    omega
  | case3 a b rest ih =>
    have ha := a.toNat_lt
    have hb := b.toNat_lt
    simp only [natSum, List.length_cons]
    omega

lemma natSum_append (xs ys : List UInt8) (h : xs.length % 2 = 0) :
    natSum (xs ++ ys) = natSum xs + natSum ys := by
  induction xs using natSum.induct with
  | case1 => simp [natSum]
  | case2 a => simp at h
  | case3 a b rest ih =>
    have hr : rest.length % 2 = 0 := by
      simp only [List.length_cons] at h
      omega
    simp only [List.cons_append, natSum, ih hr]
    omega

lemma wordSum_toNat (bs : List UInt8) (h : bs.length < 131072) :
    (wordSum bs).toNat = natSum bs := by
  induction bs using natSum.induct with
  | case1 => rfl
  | case2 a =>
    have ha := a.toNat_lt
    have hs : UInt32.toNat 8 % 32 = 8 := rfl
    simp only [wordSum, natSum, UInt32.toNat_shiftLeft, UInt8.toNat_toUInt32, Nat.shiftLeft_eq, hs]
    omega
  | case3 a b rest ih =>
    have hl : rest.length < 131072 := by
      simp only [List.length_cons] at h
      omega
    have hb := natSum_le rest
    have hn := fromBe16_toNat a b
    have hlt := (fromBe16 a b).toNat_lt
    simp only [List.length_cons] at h
    simp only [wordSum, natSum, UInt32.toNat_add, UInt16.toNat_toUInt32, ih hl, hn]
    omega

lemma foldStep_toNat (s : UInt32) :
    ((s &&& (0xffff : UInt32)) + (s >>> 16)).toNat = s.toNat % 65536 + s.toNat / 65536 := by
  have hs := s.toNat_lt
  have hand : s.toNat &&& 65535 = s.toNat % 65536 := Nat.and_two_pow_sub_one_eq_mod s.toNat 16
  have hc : UInt32.toNat 0xffff = 65535 := rfl
  have hk : UInt32.toNat 16 % 32 = 16 := rfl
  simp only [UInt32.toNat_add, UInt32.toNat_and, UInt32.toNat_shiftRight, Nat.shiftRight_eq_div_pow,
    hc, hk, hand]
  omega

lemma shift_ne_zero_iff (s : UInt32) : s >>> 16 ≠ 0 ↔ 65536 ≤ s.toNat := by
  have hs := s.toNat_lt
  have hk : UInt32.toNat 16 % 32 = 16 := rfl
  have hz : UInt32.toNat 0 = 0 := rfl
  rw [Ne, ← UInt32.toNat_inj, UInt32.toNat_shiftRight, Nat.shiftRight_eq_div_pow, hk, hz]
  omega

lemma foldCarry_two_lt (s : UInt32) : (foldCarry 2 s).toNat < 65536 := by
  have hs := s.toNat_lt
  simp only [foldCarry]
  split
  · have h1 := foldStep_toNat s
    split
    · rw [foldStep_toNat, h1]
      omega
    · rename_i h
      rw [shift_ne_zero_iff] at h
      omega
  · rename_i h
    rw [shift_ne_zero_iff] at h
    omega

lemma foldCarry_spec (n : ℕ) (s : UInt32) :
    (foldCarry n s).toNat % 65535 = s.toNat % 65535 ∧
      ((foldCarry n s).toNat = 0 ↔ s.toNat = 0) := by
  induction n generalizing s with
  | zero => exact ⟨rfl, Iff.rfl⟩
  | succ n ih =>
    simp only [foldCarry]
    split
    · obtain ⟨hm, hz⟩ := ih ((s &&& (0xffff : UInt32)) + (s >>> 16))
      rw [foldStep_toNat] at hm hz
      exact ⟨by omega, by omega⟩
    · exact ⟨rfl, Iff.rfl⟩

def onesComplement (bs : List UInt8) : UInt16 :=
  ~~~ (foldCarry 2 (wordSum bs)).toUInt16

lemma onesComplement_toNat (bs : List UInt8) :
    (onesComplement bs).toNat = 65535 - (foldCarry 2 (wordSum bs)).toNat := by
  have h := foldCarry_two_lt (wordSum bs)
  rw [onesComplement, UInt16.toNat_not, UInt32.toNat_toUInt16]
  norm_num
  omega

theorem onesComplement_verifies (xs ys : List UInt8) (hx : xs.length % 2 = 0)
    (hl : xs.length + 2 + ys.length < 131072) :
    onesComplement (xs ++ beBytes16 (onesComplement (xs ++ beBytes16 0 ++ ys)) ++ ys) = 0 := by
  set c := onesComplement (xs ++ beBytes16 0 ++ ys) with hc
  have hfield : ∀ n : UInt16, natSum (xs ++ beBytes16 n ++ ys) = natSum xs + n.toNat + natSum ys := by
    intro n
    have hn := n.toNat_lt
    rw [natSum_append _ ys (by simp; omega), natSum_append xs _ hx]
    simp only [beBytes16, natSum, UInt8.toNat_ofNat']
    omega
  have hsum : ∀ n : UInt16, (wordSum (xs ++ beBytes16 n ++ ys)).toNat =
      natSum xs + n.toNat + natSum ys := by
    intro n
    rw [wordSum_toNat _ (by simp; omega), hfield]
  have h0 := hsum 0
  have h1 := hsum c
  have hcn := onesComplement_toNat (xs ++ beBytes16 0 ++ ys)
  rw [← hc] at hcn
  obtain ⟨hm0, hz0⟩ := foldCarry_spec 2 (wordSum (xs ++ beBytes16 0 ++ ys))
  obtain ⟨hm1, hz1⟩ := foldCarry_spec 2 (wordSum (xs ++ beBytes16 c ++ ys))
  have hlt0 := foldCarry_two_lt (wordSum (xs ++ beBytes16 0 ++ ys))
  have hlt1 := foldCarry_two_lt (wordSum (xs ++ beBytes16 c ++ ys))
  apply UInt16.toNat_inj.mp
  rw [onesComplement_toNat]
  have hzero : (0 : UInt16).toNat = 0 := rfl
  rw [hzero] at h0 ⊢
  omega

end OnionRoute.Library
