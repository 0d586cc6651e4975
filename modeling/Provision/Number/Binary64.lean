/-!
# Numbers of 64 bits

How an integer without bounds is taken into the signed 64-bit range: as it is if it lies in it
(`Word.ofInt?`, which undoes the embedding: `Word.ofInt?_toInt`), or as the nearest one within
(`Word.nearest`).

A `Binary64` is a finite number of the 64-bit binary format, kept as its bits. Zero has two signs,
and the bits keep them apart. All that is asked of a number is answered by integer arithmetic on its
magnitude `m * 2 ^ q`.
-/

namespace Provision

namespace Word

/-- The 64-bit integer that equals `n`, if there is one. -/
def ofInt? (n : Int) : Option Int64 :=
  if Int64.minValue.toInt ≤ n ∧ n ≤ Int64.maxValue.toInt then some (Int64.ofInt n) else none

/-- An integer of the range is taken as it is. -/
theorem ofInt?_toInt (n : Int64) : ofInt? n.toInt = some n := by
  unfold ofInt?
  rw [if_pos ⟨n.minValue_le_toInt, n.toInt_le⟩, Int64.ofInt_toInt]

/-- The greatest integer that fits 64 bits without a sign. -/
def greatest : Nat := 0xFFFFFFFFFFFFFFFF

/-- The 64-bit integer nearest to `n`. -/
def nearest (n : Int) : Int64 :=
  if n < Int64.minValue.toInt then Int64.minValue
  else if Int64.maxValue.toInt < n then Int64.maxValue
  else Int64.ofInt n

end Word

/-- A finite number of the 64-bit binary format. The infinities of the format and what is no number
in it are left out: no text that is read stands for one of them. -/
structure Binary64 where
  /-- Sign, exponent and fraction as stored. -/
  bits : UInt64
  /-- The exponent is not the one kept for infinities and for what is no number. -/
  finite : (bits >>> 52) &&& 0x7FF ≠ 0x7FF
deriving DecidableEq

namespace Binary64

/-- Whether the sign is minus, also that of a zero. -/
def isNegative (x : Binary64) : Bool := x.bits >>> 63 == 1

/-- The stored exponent. -/
def exponentField (x : Binary64) : Nat := ((x.bits >>> 52) &&& 0x7FF).toNat

/-- The stored fraction. -/
def fractionField (x : Binary64) : Nat := (x.bits &&& 0xFFFFFFFFFFFFF).toNat

/-- The integer `m` of the magnitude `m * 2 ^ q`: the fraction, behind a leading one that is not
stored unless the stored exponent is zero. -/
def mantissa (x : Binary64) : Nat :=
  if x.exponentField = 0 then x.fractionField else 0x10000000000000 + x.fractionField

/-- The integer `q` of the magnitude `m * 2 ^ q`. -/
def exponent (x : Binary64) : Int :=
  if x.exponentField = 0 then -1074 else x.exponentField - 1075

/-- Whether the gap to the magnitude below is half the gap to the one above. -/
def narrowBelow (x : Binary64) : Bool := x.fractionField == 0 && 1 < x.exponentField

/-- Whether the number is zero, of either sign. -/
def isZero (x : Binary64) : Bool := x.mantissa == 0

/-- The number as an integer, if it is one. -/
def toInt? (x : Binary64) : Option Int :=
  let magnitude? : Option Nat :=
    if 0 ≤ x.exponent then some (x.mantissa * Nat.pow 2 x.exponent.toNat)
    else
      let d := Nat.pow 2 (-x.exponent).toNat
      if x.mantissa % d = 0 then some (x.mantissa / d) else none
  magnitude?.map fun (m : Nat) => if x.isNegative then -(m : Int) else m

/-- The number with these bits, unless they stand for an infinity or for no number. -/
def ofBits? (bits : UInt64) : Option Binary64 :=
  if h : (bits >>> 52) &&& 0x7FF ≠ 0x7FF then some ⟨bits, h⟩ else none

/-- The zero with the given sign. -/
def zero (negative : Bool) : Binary64 :=
  if negative then ⟨0x8000000000000000, by decide⟩ else ⟨0, by decide⟩

end Binary64

end Provision
