import Mathlib.Data.List.Basic

set_option autoImplicit false

namespace MundusVivens.Bytes

-- A fixed block of memory after `source` was copied to `offset`; a copy that does not fit has no
-- defined result.
def overwrite (block : List UInt8) (offset : Nat) (source : List UInt8) : Option (List UInt8) :=
  if offset + source.length ≤ block.length then
    some (block.take offset ++ source ++ block.drop (offset + source.length))
  else none

theorem overwrite_isSome (block : List UInt8) (offset : Nat) (source : List UInt8) :
    (overwrite block offset source).isSome ↔ offset + source.length ≤ block.length := by
  unfold overwrite
  split <;> simp_all

theorem overwrite_length (block written : List UInt8) (offset : Nat) (source : List UInt8)
    (copied : overwrite block offset source = some written) : written.length = block.length := by
  unfold overwrite at copied
  split at copied
  next fits =>
    obtain rfl := Option.some.inj copied
    simp only [List.length_append, List.length_take, List.length_drop]
    omega
  next => cases copied

-- Copies that follow one another leave their concatenation at the front of the block.
theorem overwrite_extends (block front written source : List UInt8) (offset : Nat)
    (copied : overwrite block offset source = some written)
    (prior : block.take offset = front) (filled : front.length = offset) :
    written.take (offset + source.length) = front ++ source := by
  unfold overwrite at copied
  split at copied
  next fits =>
    obtain rfl := Option.some.inj copied
    have size : (front ++ source).length = offset + source.length := by
      rw [List.length_append, filled]
    rw [prior, ← size]
    exact List.take_left
  next => cases copied

-- The high byte of a 16-bit value comes first on the wire.
def readU16BE (high low : UInt8) : UInt16 :=
  (high.toUInt16 <<< 8) ||| low.toUInt16

def writeU16BE (value : UInt16) : List UInt8 :=
  [(value >>> 8).toUInt8, (value &&& 0xFF).toUInt8]

@[simp] theorem writeU16BE_length (value : UInt16) : (writeU16BE value).length = 2 := rfl

theorem readU16BE_toNat (high low : UInt8) :
    (readU16BE high low).toNat = high.toNat * 256 + low.toNat := by
  have highBound := high.toNat_lt
  have lowBound := low.toNat_lt
  simp only [readU16BE, UInt16.toNat_or, UInt16.toNat_shiftLeft, UInt8.toNat_toUInt16]
  rw [Nat.mod_eq_of_lt (show high.toNat <<< ((8 : UInt16).toNat % 16) < 2 ^ 16 by
    change high.toNat <<< 8 < 2 ^ 16
    rw [Nat.shiftLeft_eq]
    omega)]
  change high.toNat <<< 8 ||| low.toNat = _
  rw [← Nat.shiftLeft_add_eq_or_of_lt lowBound, Nat.shiftLeft_eq]

theorem readU16BE_writeU16BE (value : UInt16) :
    readU16BE (value >>> 8).toUInt8 (value &&& 0xFF).toUInt8 = value := by
  apply UInt16.toNat_inj.mp
  have bound := value.toNat_lt
  have high : (value >>> 8).toUInt8.toNat = value.toNat / 256 := by
    simp only [UInt16.toNat_toUInt8, UInt16.toNat_shiftRight]
    change value.toNat >>> 8 % 256 = _
    rw [Nat.shiftRight_eq_div_pow]
    omega
  have low : (value &&& 0xFF).toUInt8.toNat = value.toNat % 256 := by
    simp only [UInt16.toNat_toUInt8, UInt16.toNat_and]
    change (value.toNat &&& (2 ^ 8 - 1)) % 256 = _
    rw [Nat.and_two_pow_sub_one_eq_mod]
    omega
  rw [readU16BE_toNat, high, low]
  omega

end MundusVivens.Bytes
