/-!
# Saturating arithmetic

Counts are 64-bit words and instants are signed 64-bit milliseconds.  Sums and
products that leave their word are held at its end instead of wrapping; every
definition is stated through the exact integers, so its value is the exact
result clamped to the word.  The ends of the words are written out in base 16.
-/

namespace Turnstile
namespace Saturating

/-- The sum of two counts, held at the largest count. -/
def add (left right : UInt64) : UInt64 :=
  UInt64.ofNat (min (left.toNat + right.toNat) 0xFFFF_FFFF_FFFF_FFFF)

/-- The product of two counts, held at the largest count. -/
def mul (left right : UInt64) : UInt64 :=
  UInt64.ofNat (min (left.toNat * right.toNat) 0xFFFF_FFFF_FFFF_FFFF)

/-- The sum of an instant and an offset, held at the ends of the time line. -/
def shift (instant offset : Int64) : Int64 :=
  Int64.ofInt (max (-0x8000_0000_0000_0000)
    (min (instant.toInt + offset.toInt) 0x7FFF_FFFF_FFFF_FFFF))

theorem toNat_add (left right : UInt64) :
    (add left right).toNat =
      min (left.toNat + right.toNat) 0xFFFF_FFFF_FFFF_FFFF := by
  have fits : min (left.toNat + right.toNat) 0xFFFF_FFFF_FFFF_FFFF <
      2 ^ 64 := by omega
  rw [add, UInt64.toNat_ofNat', Nat.mod_eq_of_lt fits]

theorem toNat_mul (left right : UInt64) :
    (mul left right).toNat =
      min (left.toNat * right.toNat) 0xFFFF_FFFF_FFFF_FFFF := by
  have fits : min (left.toNat * right.toNat) 0xFFFF_FFFF_FFFF_FFFF <
      2 ^ 64 := by omega
  rw [mul, UInt64.toNat_ofNat', Nat.mod_eq_of_lt fits]

theorem toInt_shift (instant offset : Int64) :
    (shift instant offset).toInt =
      max (-0x8000_0000_0000_0000)
        (min (instant.toInt + offset.toInt) 0x7FFF_FFFF_FFFF_FFFF) := by
  apply Int64.toInt_ofInt_of_le <;> omega

/-- A duration that runs back is taken for none. -/
theorem toInt_max_zero (duration : Int64) :
    (max duration 0).toInt = max duration.toInt 0 := by
  change (if duration ≤ 0 then 0 else duration).toInt = _
  split
  · next back =>
      rw [Int64.le_iff_toInt_le, Int64.toInt_zero] at back
      rw [Int64.toInt_zero]
      omega
  · next forth =>
      rw [Int64.le_iff_toInt_le, Int64.toInt_zero] at forth
      omega

/-- A duration that is not negative is the same number as a count. -/
theorem toNat_toUInt64
    {duration : Int64}
    (forward : 0 ≤ duration.toInt) :
    duration.toUInt64.toNat = duration.toInt.toNat := by
  have signed := BitVec.toInt_eq_toNat_cond duration.toBitVec
  have bound := duration.toBitVec.isLt
  change duration.toInt = _ at signed
  change duration.toBitVec.toNat = duration.toInt.toNat
  split at signed <;> omega

end Saturating
end Turnstile
