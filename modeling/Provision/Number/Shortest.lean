import Provision.Number.Binary64

/-!
# The shortest decimal of a number

Among the decimals that read back as a given number, `Binary64.shortest` takes one with the fewest
digits, and of those the nearest. The test for reading back (`readsBack`) is the exact comparison
with the two ends of the interval that rounds to the number; the search walks the decimal grids from
one digit to seventeen and tries the two neighbours of the number on each.
-/

namespace Provision

/-- The decimal `digits * 10 ^ exp`. -/
structure Decimal where
  /-- All digits, as one integer. -/
  digits : Nat
  /-- The power of ten of the last digit. -/
  exp : Int
deriving DecidableEq, Repr

namespace Decimal

/-- Compares `a * 10 ^ i` with `n * 2 ^ j`. -/
def compareBinary (a : Nat) (i : Int) (n : Nat) (j : Int) : Ordering :=
  compare (a * Nat.pow 10 i.toNat * Nat.pow 2 (-j).toNat)
    (n * Nat.pow 2 j.toNat * Nat.pow 10 (-i).toNat)

/-- The same decimal without zeros at the end of its digits. -/
def trimZeros (d : Decimal) : Decimal :=
  if h : d.digits ≠ 0 ∧ d.digits % 10 = 0 then trimZeros ⟨d.digits / 10, d.exp + 1⟩ else d
termination_by d.digits
decreasing_by exact Nat.div_lt_self (Nat.pos_of_ne_zero h.1) (by decide)

end Decimal

/-- Which of two equally near decimals is taken. -/
inductive Tie where
  /-- The one whose last digit is even. -/
  | toEven
  /-- The greater one. -/
  | up
deriving DecidableEq

namespace Binary64

/-- Whether a decimal lies in the interval that rounds to the magnitude of `x`. The ends belong to
the interval exactly when the mantissa is even. -/
def readsBack (x : Binary64) (d : Decimal) : Bool :=
  let lo := if x.narrowBelow then 4 * x.mantissa - 1 else 4 * x.mantissa - 2
  let hi := 4 * x.mantissa + 2
  let closed := x.mantissa % 2 == 0
  let atLo := Decimal.compareBinary d.digits d.exp lo (x.exponent - 2)
  let atHi := Decimal.compareBinary d.digits d.exp hi (x.exponent - 2)
  (atLo == .gt || (closed && atLo == .eq)) && (atHi == .lt || (closed && atHi == .eq))

/-- The greatest integer at most the magnitude of `x` over `10 ^ k`. -/
def floorScaled (x : Binary64) (k : Int) : Nat :=
  (x.mantissa * Nat.pow 2 x.exponent.toNat * Nat.pow 10 (-k).toNat) /
    (Nat.pow 2 (-x.exponent).toNat * Nat.pow 10 k.toNat)

/-- The number of digits before the point of the magnitude of `x`; negative or zero for small ones.
The estimate from the bit length is at most one off. -/
def decimalOrder (x : Binary64) : Int :=
  let bits : Int := Nat.log2 x.mantissa + x.exponent
  let estimate : Int := bits * 1233 / 4096
  let below (k : Int) : Bool := Decimal.compareBinary 1 k x.mantissa x.exponent == .gt
  if below (estimate - 1) then estimate - 1
  else if below estimate then estimate
  else if below (estimate + 1) then estimate + 1
  else estimate + 2

/-- Of the two neighbours of the magnitude of `x` on the grid `10 ^ k`, the nearer one that reads
back. -/
def onGrid? (x : Binary64) (tie : Tie) (k : Int) : Option Decimal :=
  let lower := x.floorScaled k
  let lowOk := x.readsBack ⟨lower, k⟩
  let highOk := x.readsBack ⟨lower + 1, k⟩
  if lowOk && highOk then
    -- twice the magnitude against the sum of the neighbours
    match Decimal.compareBinary (2 * lower + 1) k (2 * x.mantissa) x.exponent, tie with
    | .gt, _ => some ⟨lower, k⟩
    | .lt, _ => some ⟨lower + 1, k⟩
    | .eq, .up => some ⟨lower + 1, k⟩
    | .eq, .toEven => some ⟨if lower % 2 = 0 then lower else lower + 1, k⟩
  else if lowOk then some ⟨lower, k⟩
  else if highOk then some ⟨lower + 1, k⟩
  else none

/-- The magnitude of `x`, written out in full. -/
def exactDecimal (x : Binary64) : Decimal :=
  ⟨x.mantissa * Nat.pow 2 x.exponent.toNat * Nat.pow 5 (-x.exponent).toNat,
    if x.exponent < 0 then x.exponent else 0⟩

/-- The shortest decimal that reads back as the magnitude of `x`. -/
def shortest (x : Binary64) (tie : Tie) : Decimal :=
  if x.isZero then ⟨0, 0⟩
  else
    let order := x.decimalOrder
    let hit := (List.range 17).findSome? fun n => x.onGrid? tie (order - (n + 1 : Nat))
    (hit.getD x.exactDecimal).trimZeros

end Binary64

end Provision
