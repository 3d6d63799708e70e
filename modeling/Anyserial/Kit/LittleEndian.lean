import Mathlib.Data.BitVec

set_option autoImplicit false

/-! Packing of unsigned 32-bit integers into four bytes, the low byte first. -/

namespace Anyserial.Kit

def packU32 (value : Nat) : List (BitVec 8) :=
  [BitVec.ofNat 8 value, BitVec.ofNat 8 (value / 2 ^ 8), BitVec.ofNat 8 (value / 2 ^ 16),
    BitVec.ofNat 8 (value / 2 ^ 24)]

def unpackU32 : List (BitVec 8) → Nat
  | [b0, b1, b2, b3] => b0.toNat + 2 ^ 8 * b1.toNat + 2 ^ 16 * b2.toNat + 2 ^ 24 * b3.toNat
  | _ => 0

@[simp] theorem length_packU32 (value : Nat) : (packU32 value).length = 4 := rfl

theorem unpackU32_packU32 {value : Nat} (fits : value < 2 ^ 32) : unpackU32 (packU32 value) = value := by
  simp only [packU32, unpackU32, BitVec.toNat_ofNat]
  omega

theorem packU32_unpackU32 {bytes : List (BitVec 8)} (size : bytes.length = 4) : packU32 (unpackU32 bytes) = bytes := by
  match bytes, size with
  | [b0, b1, b2, b3], _ =>
    have h0 := b0.isLt
    have h1 := b1.isLt
    have h2 := b2.isLt
    have h3 := b3.isLt
    simp only [packU32, unpackU32, List.cons.injEq, and_true]
    refine ⟨?_, ?_, ?_, ?_⟩ <;> apply BitVec.eq_of_toNat_eq <;> rw [BitVec.toNat_ofNat] <;> omega

theorem unpackU32_lt (bytes : List (BitVec 8)) : unpackU32 bytes < 2 ^ 32 := by
  unfold unpackU32
  split
  · rename_i b0 b1 b2 b3
    have h0 := b0.isLt
    have h1 := b1.isLt
    have h2 := b2.isLt
    have h3 := b3.isLt
    omega
  · omega

end Anyserial.Kit
