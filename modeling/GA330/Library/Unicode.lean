import GA330.Library.ByteMemory

/-!
# UTF-8 and UTF-16

Strings of Unicode scalar values in the two encodings.  A scalar below
U+10000 is one 16-bit unit, and its UTF-8 bytes are bit fields of that unit; a
scalar above is two surrogates.
-/

namespace Unicode

open ByteMemory

/-- The bytes of a scalar in UTF-8. -/
def utf8Bytes (scalar : Char) : List Byte :=
  (String.utf8EncodeChar scalar).map UInt8.toBitVec

/-- A string in UTF-8. -/
def utf8 (scalars : List Char) : List Byte :=
  scalars.flatMap utf8Bytes

/-- The scalar is one unit in UTF-16. -/
def Basic (scalar : Char) : Prop := scalar.toNat < 0x10000

instance (scalar : Char) : Decidable (Basic scalar) :=
  inferInstanceAs (Decidable (_ < _))

/-- The unit of such a scalar. -/
def basicUnit (scalar : Char) : BitVec 16 := BitVec.ofNat 16 scalar.toNat

/-- The units of a scalar in UTF-16. -/
def utf16Units (scalar : Char) : List (BitVec 16) :=
  if Basic scalar then [basicUnit scalar]
  else
    [BitVec.ofNat 16 (0xD800 + (scalar.toNat - 0x10000) / 0x400),
      BitVec.ofNat 16 (0xDC00 + (scalar.toNat - 0x10000) % 0x400)]

/-- A string in UTF-16. -/
def utf16 (scalars : List Char) : List (BitVec 16) :=
  scalars.flatMap utf16Units

/-- A unit that is half of a pair. -/
def Surrogate (unit : BitVec 16) : Prop := 0xD800 ≤ unit ∧ unit < 0xE000

/-! ## Scalars of one unit -/

section Scalars

variable {scalar : Char}

theorem toNat_toBitVec (scalar : Char) :
    scalar.val.toBitVec.toNat = scalar.toNat := rfl

theorem toNat_basicUnit (basic : Basic scalar) :
    (basicUnit scalar).toNat = scalar.toNat := by
  rw [basicUnit, BitVec.toNat_ofNat]
  exact Nat.mod_eq_of_lt basic

/-- A scalar is not a surrogate. -/
theorem not_surrogate (basic : Basic scalar) :
    ¬ Surrogate (basicUnit scalar) := by
  have valid : scalar.toNat < 0xD800 ∨ 0xDFFF < scalar.toNat := by
    rcases scalar.valid with low | high
    · exact .inl low
    · exact .inr high.1
  unfold Basic at basic
  unfold Surrogate basicUnit
  bv_omega

/-- The first unit of a scalar of two units is a surrogate. -/
theorem utf16Units_of_not_basic (large : ¬ Basic scalar) :
    ∃ high low, utf16Units scalar = [high, low] ∧ Surrogate high := by
  have valid : scalar.toNat < 0x110000 := by
    rcases scalar.valid with small | bounds
    · change scalar.toNat < 0xD800 at small
      omega
    · exact bounds.2
  refine ⟨_, _, if_neg large, ?_⟩
  unfold Basic at large
  unfold Surrogate
  bv_omega

/-- Six bits of a scalar, taken from its unit. -/
theorem lowBits {unit : BitVec 16} {value : BitVec 32}
    (same : unit.toNat % 64 = value.toNat % 64) :
    (unit &&& 0x3F).setWidth 8 = value.setWidth 8 &&& 0x3F := by
  have mask8 : (0x3F : BitVec 8).toNat = 2 ^ 6 - 1 := by rfl
  have mask16 : (0x3F : BitVec 16).toNat = 2 ^ 6 - 1 := by rfl
  apply BitVec.eq_of_toNat_eq
  simp only [BitVec.toNat_setWidth, BitVec.toNat_and, mask8, mask16,
    Nat.and_two_pow_sub_one_eq_mod]
  omega

/-- All bits of a small part of a scalar, taken from its unit; the mask does
not lose any. -/
theorem highBits (bits : Nat) {unit : BitVec 16} {value : BitVec 32}
    {mask : BitVec 8} (masks : mask.toNat = 2 ^ bits - 1)
    (small : unit.toNat < 2 ^ bits) (narrow : 2 ^ bits ≤ 2 ^ 8)
    (same : unit.toNat = value.toNat) :
    unit.setWidth 8 = value.setWidth 8 &&& mask := by
  apply BitVec.eq_of_toNat_eq
  have fits : unit.toNat < 2 ^ 8 := Nat.lt_of_lt_of_le small narrow
  simp only [BitVec.toNat_setWidth, BitVec.toNat_and, masks,
    Nat.and_two_pow_sub_one_eq_mod, ← same]
  rw [Nat.mod_eq_of_lt fits, Nat.mod_eq_of_lt small]

/-- One byte. -/
theorem utf8Bytes_of_lt (small : scalar.toNat < 0x80) :
    utf8Bytes scalar = [(basicUnit scalar).setWidth 8] := by
  have basic : Basic scalar := Nat.lt_trans small (by decide)
  have size : scalar.utf8Size = 1 := by
    rw [Char.utf8Size_eq_one_iff, UInt32.le_iff_toNat_le]
    exact Nat.le_of_lt_succ small
  rw [utf8Bytes, String.utf8EncodeChar_eq_singleton size]
  simp only [List.map_cons, List.map_nil, UInt32.toBitVec_toUInt8,
    List.cons.injEq, and_true]
  apply BitVec.eq_of_toNat_eq
  rw [BitVec.toNat_setWidth, BitVec.toNat_setWidth, toNat_toBitVec,
    toNat_basicUnit basic]

/-- Two bytes. -/
theorem utf8Bytes_of_lt_two (large : 0x80 ≤ scalar.toNat)
    (small : scalar.toNat < 0x800) :
    utf8Bytes scalar =
      [(0xC0 : Byte) ||| (basicUnit scalar >>> 6).setWidth 8,
        (0x80 : Byte) ||| (basicUnit scalar &&& 0x3F).setWidth 8] := by
  have size : scalar.utf8Size = 2 := by
    rw [Char.utf8Size_eq_two_iff, UInt32.lt_iff_toNat_lt,
      UInt32.le_iff_toNat_le]
    exact ⟨large, Nat.le_of_lt_succ small⟩
  have basic : Basic scalar := Nat.lt_trans small (by decide)
  have unit := toNat_basicUnit basic
  have first : (basicUnit scalar >>> 6).setWidth 8 =
      (scalar.val.toBitVec >>> 6).setWidth 8 &&& 0x1F := by
    apply highBits 5 rfl
    · rw [BitVec.toNat_ushiftRight, unit, Nat.shiftRight_eq_div_pow]
      omega
    · decide
    · rw [BitVec.toNat_ushiftRight, BitVec.toNat_ushiftRight, unit,
        toNat_toBitVec]
  have second : (basicUnit scalar &&& 0x3F).setWidth 8 =
      scalar.val.toBitVec.setWidth 8 &&& 0x3F := by
    apply lowBits
    rw [unit, toNat_toBitVec]
  rw [utf8Bytes, String.utf8EncodeChar_eq_cons_cons size, first, second,
    BitVec.or_comm 0xC0, BitVec.or_comm 0x80]
  rfl

/-- Three bytes. -/
theorem utf8Bytes_of_basic (large : 0x800 ≤ scalar.toNat)
    (basic : Basic scalar) :
    utf8Bytes scalar =
      [(0xE0 : Byte) ||| (basicUnit scalar >>> 12).setWidth 8,
        (0x80 : Byte) ||| ((basicUnit scalar >>> 6) &&& 0x3F).setWidth 8,
        (0x80 : Byte) ||| (basicUnit scalar &&& 0x3F).setWidth 8] := by
  have size : scalar.utf8Size = 3 := by
    rw [Char.utf8Size_eq_three_iff, UInt32.lt_iff_toNat_lt,
      UInt32.le_iff_toNat_le]
    exact ⟨large, Nat.le_of_lt_succ basic⟩
  have unit := toNat_basicUnit basic
  have first : (basicUnit scalar >>> 12).setWidth 8 =
      (scalar.val.toBitVec >>> 12).setWidth 8 &&& 0x0F := by
    apply highBits 4 rfl
    · rw [BitVec.toNat_ushiftRight, unit, Nat.shiftRight_eq_div_pow]
      omega
    · decide
    · rw [BitVec.toNat_ushiftRight, BitVec.toNat_ushiftRight, unit,
        toNat_toBitVec]
  have second : (basicUnit scalar >>> 6 &&& 0x3F).setWidth 8 =
      (scalar.val.toBitVec >>> 6).setWidth 8 &&& 0x3F := by
    apply lowBits
    rw [BitVec.toNat_ushiftRight, BitVec.toNat_ushiftRight, unit,
      toNat_toBitVec]
  have third : (basicUnit scalar &&& 0x3F).setWidth 8 =
      scalar.val.toBitVec.setWidth 8 &&& 0x3F := by
    apply lowBits
    rw [unit, toNat_toBitVec]
  rw [utf8Bytes, String.utf8EncodeChar_eq_cons_cons_cons size, first, second,
    third, BitVec.or_comm 0xE0, BitVec.or_comm 0x80, BitVec.or_comm 0x80]
  rfl

end Scalars

end Unicode
