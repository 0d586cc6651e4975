import Provision.Number.Rounding

/-!
# Number literals

A `Numeral` is a number as a JSON text writes it: its sign, its digits and its exponent. The grammar
(`Numeral.ofChars?`) allows no leading zero and wants a digit on both sides of a point.

An integer of 64 bits, with or without a sign, stands for itself (`Numeral.int?`). Any other numeral
stands for a binary number (`Numeral.float?`): its digits become a significand of 64 bits, that
becomes the nearest number, and the number is scaled by a power of ten. Each of the last two steps
rounds, so the result is not always the number nearest to the numeral.
-/

namespace Provision.Json

/-- A number as it is written. -/
structure Numeral where
  /-- Whether there is a minus in front. -/
  negative : Bool
  /-- The digits before the point. -/
  whole : List Char
  /-- The digits behind the point, if there is one. -/
  fraction : Option (List Char)
  /-- The power of ten at the end, if there is one. -/
  exponent : Option Int

namespace Numeral

/-- Whether a character may stand in a numeral. -/
def isNumeric (c : Char) : Bool := c.isDigit || c ∈ ['-', '+', '.', 'e', 'E']

/-- An integer with one more digit behind it. -/
def withDigit (n : Nat) (c : Char) : Nat := 10 * n + (c.toNat - '0'.toNat)

/-- The value of decimal digits. -/
def digitsValue (cs : List Char) : Nat := cs.foldl withDigit 0

/-- The exponent from behind its mark: a sign, then at least one digit. -/
def exponent? (cs : List Char) : Option Int :=
  match cs with
  | '-' :: ds => (unsigned? ds).map fun n => -(n : Int)
  | '+' :: ds => (unsigned? ds).map fun (n : Nat) => (n : Int)
  | ds => (unsigned? ds).map fun (n : Nat) => (n : Int)
where
  /-- At least one digit and nothing else. -/
  unsigned? (ds : List Char) : Option Nat :=
    if ds ≠ [] ∧ ds.all Char.isDigit then some (digitsValue ds) else none

/-- The fraction from its point on, if there is one, and what is behind it. -/
def fraction? (cs : List Char) : Option (Option (List Char) × List Char) :=
  match cs with
  | '.' :: cs =>
    let ds := cs.takeWhile Char.isDigit
    if ds.isEmpty then none else some (some ds, cs.dropWhile Char.isDigit)
  | cs => some (none, cs)

/-- The numeral that some characters are. -/
def ofChars? (cs : List Char) : Option Numeral := do
  let (negative, cs) := match cs with
    | '-' :: cs => (true, cs)
    | cs => (false, cs)
  let whole := cs.takeWhile Char.isDigit
  if whole.isEmpty ∨ (whole.head? = some '0' ∧ 1 < whole.length) then none
  let (fraction, cs) ← fraction? (cs.dropWhile Char.isDigit)
  match cs with
  | [] => return { negative, whole, fraction, exponent := none }
  | mark :: cs =>
    if mark ≠ 'e' ∧ mark ≠ 'E' then none
    return { negative, whole, fraction, exponent := some (← exponent? cs) }

/-- The integer of 64 bits that a numeral without point and exponent stands for. Minus zero is
none. -/
def int? (n : Numeral) : Option Int :=
  if n.fraction.isSome ∨ n.exponent.isSome then none
  else
    let value := digitsValue n.whole
    if n.negative then
      if value = 0 ∨ -(value : Int) < Int64.minValue.toInt then none else some (-(value : Int))
    else if value ≤ Word.greatest then some value
    else none

/-- Puts digits behind a significand as long as it fits 64 bits, and returns the digits that are
left. -/
def absorb (n : Nat) (cs : List Char) : Nat × List Char :=
  match cs with
  | [] => (n, [])
  | c :: rest => if withDigit n c ≤ Word.greatest then absorb (withDigit n c) rest else (n, cs)

/-- The significand and the power of ten to scale it by. Of the digits that do not fit, those before
the point count as zeros and those behind it not at all. -/
def parts (n : Numeral) : Nat × Int :=
  let fraction := n.fraction.getD []
  let (head, beyond) := absorb 0 n.whole
  let (significand, dropped) := absorb head fraction
  (significand, n.exponent.getD 0 + beyond.length - fraction.length + dropped.length)

/-- The binary number that a numeral stands for, or `none` when it is out of range. -/
def float? (n : Numeral) : Option Binary64 := do
  let (significand, e) := n.parts
  (← Binary64.ofRatio? n.negative significand 1).scale? e

end Numeral

end Provision.Json
