import Mathlib.Algebra.Order.Ring.Int
import Mathlib.Data.Nat.Digits.Defs
import TestDomApp.DomappCommon.Services

/-!
# Long integers in messages

`unformatLong` reads four bytes as a number in base 256, the high byte first
(`toNat_unformatLong`), and `formatLong` writes the digits of a number in that base
(`map_toNat_formatLong`), so a number that was written is read back (`unformatLong_store`).  Read
low byte first, it is the same number only if its bytes are a palindrome
(`littleEndian_formatLong_iff`).
-/

namespace TestDomApp

open Region

/-- Shifting in a byte. -/
theorem toNat_shiftLeft_or (x : UInt32) (b : UInt8) :
    (x <<< 8 ||| b.toUInt32).toNat = (x.toNat * 256 + b.toNat) % 2 ^ 32 := by
  have hb : b.toNat < 2 ^ 8 := b.toNat_lt
  have hb32 : b.toNat % 2 ^ 32 = b.toNat := Nat.mod_eq_of_lt (by omega)
  have hor : x.toNat <<< 8 ||| b.toNat = x.toNat <<< 8 + b.toNat :=
    (Nat.shiftLeft_add_eq_or_of_lt hb _).symm
  have h8 : (8 : UInt32).toNat % 32 = 8 := rfl
  rw [UInt32.toNat_or, UInt32.toNat_shiftLeft, UInt8.toNat_toUInt32, h8]
  conv_lhs => rw [← hb32, ← Nat.or_mod_two_pow, hor, Nat.shiftLeft_eq]

/-- Masking with `0xff` keeps the last digit. -/
theorem toNat_and_toUInt8 (x : UInt32) : (x &&& 0xff).toUInt8.toNat = x.toNat % 256 := by
  have hmask : (0xff : UInt32).toNat = 2 ^ 8 - 1 := rfl
  rw [UInt32.toNat_toUInt8, UInt32.toNat_and, hmask, Nat.and_two_pow_sub_one_eq_mod]
  omega

theorem toNat_unformatLong (buf : ByteRegion) (off : ℕ) :
    (unformatLong buf off).toNat =
      (buf off).toNat * 2 ^ 24 + (buf (off + 1)).toNat * 2 ^ 16 + (buf (off + 2)).toNat * 2 ^ 8 +
        (buf (off + 3)).toNat := by
  have h₀ := (buf off).toNat_lt
  have h₁ := (buf (off + 1)).toNat_lt
  have h₂ := (buf (off + 2)).toNat_lt
  have h₃ := (buf (off + 3)).toNat_lt
  simp only [unformatLong, toNat_shiftLeft_or, UInt8.toNat_toUInt32]
  omega

@[simp] theorem length_formatLong (v : UInt32) : (formatLong v).length = 4 := rfl

/-- **A number written by `formatLong` is read back by `unformatLong`**, wherever it stands. -/
theorem unformatLong_store (v : UInt32) (r : ByteRegion) (pre post : List UInt8) :
    unformatLong (store r 0 (pre ++ formatLong v ++ post)) pre.length = v := by
  have hbyte : ∀ i (hi : i < 4),
      store r 0 (pre ++ formatLong v ++ post) (pre.length + i) = (formatLong v)[i] := by
    intro i hi
    rw [store_zero_apply (by simp; omega), List.getElem_append_left (by simp; omega),
      List.getElem_append_right (by omega)]
    simp only [Nat.add_sub_cancel_left]
    rfl
  have hv := v.toNat_lt
  apply UInt32.toNat_inj.mp
  have h₀ := hbyte 0 (by omega)
  rw [Nat.add_zero] at h₀
  rw [toNat_unformatLong, h₀, hbyte 1 (by omega), hbyte 2 (by omega), hbyte 3 (by omega)]
  simp only [formatLong, List.getElem_cons_zero, List.getElem_cons_succ, toNat_and_toUInt8,
    UInt32.toNat_shiftRight, Nat.shiftRight_eq_div_pow]
  simp only [UInt32.reduceToNat, Nat.reduceMod, Nat.reducePow] at *
  omega

/-! ### The other byte order -/

/-- The number that bytes represent, the low byte first. -/
def littleEndian (bs : List UInt8) : ℕ := Nat.ofDigits 256 (bs.map UInt8.toNat)

theorem map_toNat_formatLong (v : UInt32) :
    (formatLong v).map UInt8.toNat =
      [v.toNat / 2 ^ 24 % 256, v.toNat / 2 ^ 16 % 256, v.toNat / 2 ^ 8 % 256, v.toNat % 256] := by
  simp only [formatLong, List.map_cons, List.map_nil, toNat_and_toUInt8, UInt32.toNat_shiftRight,
    Nat.shiftRight_eq_div_pow]
  rfl

/-- The four bytes of a number read the same in both directions. -/
def PalindromicBytes (v : UInt32) : Prop :=
  v.toNat / 2 ^ 24 % 256 = v.toNat % 256 ∧ v.toNat / 2 ^ 16 % 256 = v.toNat / 2 ^ 8 % 256

instance (v : UInt32) : Decidable (PalindromicBytes v) := inferInstanceAs (Decidable (_ ∧ _))

/-- The digits in base 256 of a number, the low one first. -/
theorem ofDigits_digits (v : UInt32) :
    Nat.ofDigits 256 [v.toNat % 256, v.toNat / 2 ^ 8 % 256, v.toNat / 2 ^ 16 % 256,
      v.toNat / 2 ^ 24 % 256] = v.toNat := by
  have hv := v.toNat_lt
  simp only [Nat.ofDigits_cons, Nat.ofDigits_nil]
  omega

/-- **What `formatLong` writes is the number low byte first** only where the order makes no
difference. -/
theorem littleEndian_formatLong_iff (v : UInt32) :
    littleEndian (formatLong v) = v.toNat ↔ PalindromicBytes v := by
  have hlt : ∀ n, n % 256 < 256 := fun n => Nat.mod_lt n (by omega)
  have hdigits := ofDigits_digits v
  rw [littleEndian, map_toNat_formatLong]
  constructor
  · intro h
    have heq : [v.toNat / 2 ^ 24 % 256, v.toNat / 2 ^ 16 % 256, v.toNat / 2 ^ 8 % 256,
        v.toNat % 256] = [v.toNat % 256, v.toNat / 2 ^ 8 % 256, v.toNat / 2 ^ 16 % 256,
        v.toNat / 2 ^ 24 % 256] := by
      apply Nat.ofDigits_inj_of_len_eq (by omega : 1 < 256)
      · rfl
      · simp [hlt]
      · simp [hlt]
      · rw [h, hdigits]
    rw [List.cons.injEq, List.cons.injEq] at heq
    exact ⟨heq.1, heq.2.1⟩
  · rintro ⟨h₃, h₂⟩
    rw [h₃, h₂]
    rw [h₃, h₂] at hdigits
    exact hdigits

end TestDomApp
