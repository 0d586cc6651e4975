import Provision.Number.Binary64

/-!
# Rounding to a binary number

A quotient of integers is rounded to the nearest number of the format in one step, and a half goes
to the even side (`Binary64.ofRatio?`). Products and quotients of two numbers are that rounding of
their exact value. `Binary64.scale?` multiplies by a power of ten that is itself rounded, so it
rounds once more than a number needs to; that is how the numbers of a JSON text come about.

`roundDiv` is pinned by three facts: it is within half a unit (`two_mul_le_roundDiv`,
`roundDiv_le_two_mul`), keeps what divides exactly (`roundDiv_mul_left`), and takes the even
neighbour of a half (`roundDiv_even`).
-/

namespace Provision

/-- The integer nearest to `n / d`; of two equally near ones the even one. -/
def roundDiv (n d : Nat) : Nat :=
  match compare (2 * (n % d)) d with
  | .lt => n / d
  | .eq => n / d + n / d % 2
  | .gt => n / d + 1

/-- At most half a unit is lost. -/
theorem two_mul_le_roundDiv (n d : Nat) (hd : 0 < d) : 2 * n ≤ 2 * (d * roundDiv n d) + d := by
  have h := Nat.div_add_mod n d
  unfold roundDiv
  split
  · next hc =>
    rw [Nat.compare_eq_lt] at hc
    omega
  · next hc =>
    rw [Nat.compare_eq_eq] at hc
    rw [Nat.mul_add]
    omega
  · have := Nat.mod_lt n hd
    rw [Nat.mul_add]
    omega

/-- At most half a unit is gained. -/
theorem roundDiv_le_two_mul (n d : Nat) : 2 * (d * roundDiv n d) ≤ 2 * n + d := by
  have h := Nat.div_add_mod n d
  unfold roundDiv
  split
  · omega
  · next hc =>
    rw [Nat.compare_eq_eq] at hc
    have hm : d * (n / d % 2) ≤ d * 1 := Nat.mul_le_mul_left d (by omega)
    rw [Nat.mul_add]
    omega
  · next hc =>
    rw [Nat.compare_eq_gt] at hc
    rw [Nat.mul_add]
    omega

/-- What divides exactly is kept. -/
theorem roundDiv_mul_left (n d : Nat) (h : 0 < d) : roundDiv (d * n) d = n := by
  unfold roundDiv
  rw [Nat.mul_mod_right, Nat.mul_div_cancel_left n h, Nat.mul_zero, Nat.compare_eq_lt.mpr h]

/-- A half goes to the even side. -/
theorem roundDiv_even (n d : Nat) (h : 2 * (n % d) = d) : roundDiv n d % 2 = 0 := by
  unfold roundDiv
  rw [Nat.compare_eq_eq.mpr h]
  show (n / d + n / d % 2) % 2 = 0
  omega

namespace Binary64

/-- The exponent of the last bit that the format keeps of `n / d`: fifty-two below the leading bit,
and never below that of the smallest number. -/
def lastBit (n d : Nat) : Int :=
  -- `2 ^ (order - 1) < n / d < 2 ^ (order + 1)`
  let order : Int := (n.log2 : Int) - d.log2
  let leading :=
    if n * Nat.pow 2 (-order).toNat < d * Nat.pow 2 order.toNat then order - 1 else order
  if leading < -1022 then -1074 else leading - 52

/-- The number nearest to `n / d` with the given sign, or `none` when that is out of range. -/
def ofRatio? (negative : Bool) (n d : Nat) : Option Binary64 :=
  if d = 0 then none
  else if n = 0 then some (zero negative)
  else
    let q := lastBit n d
    let m := roundDiv (n * Nat.pow 2 (-q).toNat) (d * Nat.pow 2 q.toNat)
    -- the leading bit of `m`, if it has one, adds one to the stored exponent
    let magnitude := (q + 1074).toNat * 0x10000000000000 + m
    if magnitude < 0x7FF0000000000000 then
      ofBits? (if negative then .ofNat magnitude ||| 0x8000000000000000 else .ofNat magnitude)
    else none

/-- The number of the greatest magnitude, with the given sign. -/
def greatest (negative : Bool) : Binary64 :=
  if negative then ⟨0xFFEFFFFFFFFFFFFF, by decide⟩ else ⟨0x7FEFFFFFFFFFFFFF, by decide⟩

/-- The number nearest to an integer; beyond the range that is the greatest one. -/
def ofInt (n : Int) : Binary64 := (ofRatio? (n < 0) n.natAbs 1).getD (greatest (n < 0))

/-- The number nearest to the product of two numbers. -/
def mul? (x y : Binary64) : Option Binary64 :=
  let e := x.exponent + y.exponent
  ofRatio? (x.isNegative != y.isNegative) (x.mantissa * y.mantissa * Nat.pow 2 e.toNat)
    (Nat.pow 2 (-e).toNat)

/-- The number nearest to the quotient of two numbers; nothing is divided by zero. -/
def div? (x y : Binary64) : Option Binary64 :=
  let e := x.exponent - y.exponent
  ofRatio? (x.isNegative != y.isNegative) (x.mantissa * Nat.pow 2 e.toNat)
    (y.mantissa * Nat.pow 2 (-e).toNat)

/-- The number nearest to a power of ten. -/
def powerOfTen? (k : Nat) : Option Binary64 := ofRatio? false (Nat.pow 10 k) 1

/-- The exponent of the greatest power of ten in the range of the format. -/
def maxPowerOfTen : Nat := 308

/-- A number divided by the greatest power of ten of the format, as often as told or until it is
zero. -/
def scaleDown? (x : Binary64) : Nat → Option Binary64
  | 0 => some x
  | n + 1 =>
    if x.isZero then some x
    else do
      let y ← x.div? (← powerOfTen? maxPowerOfTen)
      y.scaleDown? n

/-- A number times `10 ^ e`: multiplied by the power if `e` is not negative, else divided by its
inverse, and that in steps if it is out of range by itself. Every step rounds. -/
def scale? (x : Binary64) (e : Int) : Option Binary64 :=
  if x.isZero then some x
  else if (maxPowerOfTen : Int) < e then none
  else if 0 ≤ e then do x.mul? (← powerOfTen? e.toNat)
  else
    let down := (-e).toNat
    let steps := (down - 1) / maxPowerOfTen
    do
      let y ← x.scaleDown? steps
      y.div? (← powerOfTen? (down - maxPowerOfTen * steps))

end Binary64

end Provision
