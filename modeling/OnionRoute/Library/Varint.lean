import Mathlib.Tactic

/-! Base-128 numerals, least significant digit first. -/

namespace OnionRoute.Library

def varint (n : ℕ) : List UInt8 :=
  if n < 128 then [UInt8.ofNat n] else UInt8.ofNat (n % 128 + 128) :: varint (n / 128)
termination_by n

variable {n : ℕ}

lemma varint_last (h : n < 128) : varint n = [UInt8.ofNat n] := by
  rw [varint, if_pos h]

lemma varint_cons (h : 128 ≤ n) :
    varint n = UInt8.ofNat (n % 128 + 128) :: varint (n / 128) := by
  rw [varint, if_neg (by omega)]

lemma varint_induction {P : ℕ → Prop} (last : ∀ n < 128, P n)
    (cons : ∀ n, 128 ≤ n → P (n / 128) → P n) (n : ℕ) : P n := by
  induction n using Nat.strong_induction_on with
  | _ n ih =>
    by_cases hn : n < 128
    · exact last n hn
    · exact cons n (by omega) (ih (n / 128) (by omega))

lemma log2_shift {k : ℕ} (h : 2 ^ k ≤ n) : Nat.log2 n = Nat.log2 (n / 2 ^ k) + k := by
  have hk : k ≤ Nat.log 2 n := Nat.le_log_of_pow_le Nat.one_lt_two h
  rw [Nat.log2_eq_log_two, Nat.log2_eq_log_two, Nat.log_div_base_pow]
  omega

lemma length_varint (n : ℕ) : (varint n).length = Nat.log2 n / 7 + 1 := by
  induction n using varint_induction with
  | last n hn =>
    rw [varint_last hn, List.length_singleton]
    by_cases hzero : n = 0
    · subst hzero
      rfl
    · have hlog : n.log2 < 7 := (Nat.log2_lt hzero).mpr hn
      omega
  | cons n hn ih =>
    have hlog : n.log2 = (n / 128).log2 + 7 := log2_shift (k := 7) hn
    rw [varint_cons hn, List.length_cons, ih, hlog]
    omega

lemma varint_ne_nil (n : ℕ) : varint n ≠ [] := by
  intro h
  have hlength := length_varint n
  rw [h] at hlength
  simp at hlength

lemma and_digit (byte : UInt8) : (byte &&& 0x7f).toNat = byte.toNat % 128 :=
  (UInt8.toNat_and byte 0x7f).trans (Nat.and_two_pow_sub_one_eq_mod byte.toNat 7)

lemma and_high (byte : UInt8) : byte &&& 0x80 = 0 ↔ byte.toNat < 128 := by
  have hall : ∀ n < 256, UInt8.ofNat n &&& 0x80 = 0 ↔ n < 128 := by decide +kernel
  simpa using hall byte.toNat byte.toNat_lt

lemma or_high (byte : UInt8) : byte ||| 0x80 = UInt8.ofNat (byte.toNat % 128 + 128) := by
  have hall : ∀ n < 256, UInt8.ofNat n ||| 0x80 = UInt8.ofNat (n % 128 + 128) := by
    decide +kernel
  simpa using hall byte.toNat byte.toNat_lt

lemma or_shift {value i : ℕ} (h : value < 2 ^ i) (digit : ℕ) :
    value ||| digit <<< i = value + digit * 2 ^ i := by
  rw [Nat.or_comm, ← Nat.shiftLeft_add_eq_or_of_lt h, Nat.shiftLeft_eq]
  omega

variable {byte : UInt8} {bytes rest : List UInt8}

lemma eq_ofNat_iff (hn : n < 256) : byte = UInt8.ofNat n ↔ byte.toNat = n := by
  rw [← UInt8.toNat_inj, UInt8.toNat_ofNat', Nat.mod_eq_of_lt hn]

lemma cons_eq_varint : byte :: bytes = varint n ++ rest ↔
    (byte &&& 0x80 = 0 ∧ n = (byte &&& 0x7f).toNat ∧ bytes = rest) ∨
      byte &&& 0x80 ≠ 0 ∧ n % 128 = (byte &&& 0x7f).toNat ∧ 128 ≤ n ∧
        bytes = varint (n / 128) ++ rest := by
  rw [ne_eq, and_high, and_digit]
  by_cases hn : n < 128
  · rw [varint_last hn, List.singleton_append, List.cons.injEq, eq_ofNat_iff (by omega)]
    constructor
    · rintro ⟨rfl, rfl⟩
      exact .inl ⟨hn, by omega, rfl⟩
    · rintro (⟨hlast, rfl, rfl⟩ | ⟨-, -, hlarge, -⟩)
      · exact ⟨by omega, rfl⟩
      · omega
  · rw [varint_cons (by omega), List.cons_append, List.cons.injEq, eq_ofNat_iff (by omega)]
    constructor
    · rintro ⟨hbyte, rfl⟩
      exact .inr ⟨by omega, by omega, by omega, rfl⟩
    · rintro (⟨-, rfl, -⟩ | ⟨hnext, hdigit, -, rfl⟩)
      · omega
      · have hlt := byte.toNat_lt
        exact ⟨by omega, rfl⟩

lemma digit_lt {value index : ℕ} (h : value < 2 ^ (index * 7)) (byte : UInt8) :
    value ||| (byte &&& 0x7f).toNat <<< (index * 7) < 2 ^ ((index + 1) * 7) := by
  have hdigit : (byte &&& 0x7f).toNat < 128 := by
    rw [and_digit]
    exact Nat.mod_lt _ (by decide)
  rw [or_shift h, Nat.succ_mul, pow_add]
  nlinarith

def Numeral (index value : ℕ) (bytes : List UInt8) (total : ℕ) (rest : List UInt8) : Prop :=
  ∃ n, bytes = varint n ++ rest ∧ total = value + n * 2 ^ (index * 7) ∧ (0 < index → 0 < n)

namespace Numeral

variable {index value total : ℕ}

lemma zero_iff : Numeral 0 0 bytes total rest ↔ bytes = varint total ++ rest := by
  constructor
  · rintro ⟨n, rfl, rfl, -⟩
    simp
  · rintro rfl
    exact ⟨total, rfl, by simp, fun h => absurd h (lt_irrefl 0)⟩

lemma not_nil : ¬ Numeral index value [] total rest := by
  rintro ⟨n, hbytes, -⟩
  exact varint_ne_nil n (List.append_eq_nil_iff.mp hbytes.symm).1

lemma le (h : Numeral index value bytes total rest) (hindex : 0 < index) : 2 ^ (index * 7) ≤ total := by
  obtain ⟨n, -, rfl, hn⟩ := h
  exact (Nat.le_mul_of_pos_left _ (hn hindex)).trans (Nat.le_add_left _ _)

lemma cons_iff (h : value < 2 ^ (index * 7)) : Numeral index value (byte :: bytes) total rest ↔
    if byte &&& 0x80 = 0 then
      ¬ (0 < index ∧ value ||| (byte &&& 0x7f).toNat <<< (index * 7) < 2 ^ (index * 7)) ∧
        value ||| (byte &&& 0x7f).toNat <<< (index * 7) = total ∧ bytes = rest
    else
      Numeral (index + 1) (value ||| (byte &&& 0x7f).toNat <<< (index * 7)) bytes total rest := by
  rw [or_shift h]
  constructor
  · rintro ⟨n, hbytes, rfl, hn⟩
    obtain ⟨hlast, rfl, rfl⟩ | ⟨hnext, hdigit, hlarge, rfl⟩ := cons_eq_varint.mp hbytes
    · rw [if_pos hlast]
      exact ⟨fun hless => hless.2.not_ge (le ⟨_, hbytes, rfl, hn⟩ hless.1), rfl, rfl⟩
    · rw [if_neg hnext]
      refine ⟨n / 128, rfl, ?_, fun _ => by omega⟩
      have hsplit := Nat.mod_add_div n 128
      rw [← hdigit, Nat.succ_mul, pow_add]
      nlinarith
  · intro hdigits
    split_ifs at hdigits with hlast
    · obtain ⟨hleast, rfl, rfl⟩ := hdigits
      refine ⟨_, cons_eq_varint.mpr (.inl ⟨hlast, rfl, rfl⟩), rfl, fun hindex => ?_⟩
      by_contra hzero
      rw [Nat.eq_zero_of_not_pos hzero] at hleast
      exact hleast ⟨hindex, by omega⟩
    · obtain ⟨n, rfl, rfl, hn⟩ := hdigits
      have hpos := hn (Nat.succ_pos index)
      have hdigit : (byte &&& 0x7f).toNat = byte.toNat % 128 := and_digit byte
      refine ⟨(byte &&& 0x7f).toNat + 128 * n,
        cons_eq_varint.mpr (.inr ⟨hlast, by omega, by omega, ?_⟩), ?_, fun _ => by omega⟩
      · rw [show ((byte &&& 0x7f).toNat + 128 * n) / 128 = n by omega]
      · rw [Nat.succ_mul, pow_add]
        ring

lemma bounded_cons_iff (bits top : ℕ) (hbits : top * 7 ≤ bits ∧ bits ≤ top * 7 + 7)
    (hvalue : value < 2 ^ (index * 7)) (hindex : index ≤ top) :
    Numeral index value (byte :: bytes) total rest ∧ total < 2 ^ bits ↔
      ¬ (index = top ∧ 2 ^ (bits - top * 7) ≤ (byte &&& 0x7f).toNat) ∧
        if byte &&& 0x80 = 0 then
          ¬ (0 < index ∧ value ||| (byte &&& 0x7f).toNat <<< (index * 7) < 2 ^ (index * 7)) ∧
            value ||| (byte &&& 0x7f).toNat <<< (index * 7) = total ∧ bytes = rest
        else
          Numeral (index + 1) (value ||| (byte &&& 0x7f).toNat <<< (index * 7)) bytes total rest ∧
            total < 2 ^ bits := by
  have hpow : 2 ^ bits = 2 ^ (bits - top * 7) * 2 ^ (top * 7) := by
    rw [← pow_add, Nat.sub_add_cancel hbits.1]
  rw [cons_iff hvalue]
  split_ifs with hlast
  · constructor
    · rintro ⟨⟨hleast, rfl, rfl⟩, htotal⟩
      refine ⟨?_, hleast, rfl, rfl⟩
      rintro ⟨rfl, hdigit⟩
      rw [or_shift hvalue, hpow] at htotal
      nlinarith
    · rintro ⟨htop, hleast, rfl, rfl⟩
      refine ⟨⟨hleast, rfl, rfl⟩, ?_⟩
      obtain rfl | hless := hindex.eq_or_lt
      · rw [or_shift hvalue, hpow]
        have hdigit := not_le.mp fun hle => htop ⟨rfl, hle⟩
        nlinarith
      · exact (digit_lt hvalue byte).trans_le (Nat.pow_le_pow_right (by decide) (by omega))
  · refine ⟨fun h => ⟨?_, h⟩, And.right⟩
    rintro ⟨rfl, -⟩
    have hmore := (h.1.le (Nat.succ_pos index)).trans_lt h.2
    exact absurd ((Nat.pow_lt_pow_iff_right (by decide)).mp hmore) (by omega)

end Numeral

lemma varint_split (n : ℕ) : ∃ init last, varint n = init ++ [last] ∧
    (∀ byte ∈ init, byte &&& 0x80 ≠ 0) ∧ last &&& 0x80 = 0 := by
  induction n using varint_induction with
  | last n hn =>
    refine ⟨[], UInt8.ofNat n, varint_last hn, by simp, (and_high _).mpr ?_⟩
    rwa [(eq_ofNat_iff (by omega)).mp rfl]
  | cons n hn ih =>
    obtain ⟨init, last, hsplit, hinit, hlast⟩ := ih
    refine ⟨UInt8.ofNat (n % 128 + 128) :: init, last, ?_, ?_, hlast⟩
    · rw [varint_cons hn, hsplit, List.cons_append]
    · refine List.forall_mem_cons.mpr ⟨(and_high _).not.mpr ?_, hinit⟩
      rw [(eq_ofNat_iff (by omega)).mp rfl]
      omega

end OnionRoute.Library
