import Provision.Number.Shortest

/-!
# Number texts

The two ways in which a number is written. As a JSON number (`Binary64.toJsonText`) it has a
fraction or an exponent, so that it does not read as an integer: positional from `1e-5` up to
`1e16`, otherwise with a signed exponent. As plain text (`Binary64.toPlainText`) it is always
positional and an integral number has no fraction.
-/

namespace Provision

namespace Decimal

/-- The decimal digits, most significant first. -/
def digitChars (d : Decimal) : List Char := Nat.toDigits 10 d.digits

/-- The power of ten of the first digit. -/
def leading (d : Decimal) : Int := d.digitChars.length - 1 + d.exp

/-- The digits with a point in place and no exponent. An integer gets `whole` behind it. -/
def positional (d : Decimal) (whole : List Char) : List Char :=
  let cs := d.digitChars
  if 0 ≤ d.exp then cs ++ List.replicate d.exp.toNat '0' ++ whole
  else
    let places := (-d.exp).toNat
    if places < cs.length then cs.take (cs.length - places) ++ '.' :: cs.drop (cs.length - places)
    else '0' :: '.' :: (List.replicate (places - cs.length) '0' ++ cs)

/-- The first digit, a point if there are more, and the power of ten with its sign. -/
def scientific (d : Decimal) : List Char :=
  let e := d.leading
  let exponent := 'e' :: (if e < 0 then '-' else '+') :: Nat.toDigits 10 e.natAbs
  match d.digitChars with
  | [] => exponent
  | [c] => c :: exponent
  | c :: cs => c :: '.' :: (cs ++ exponent)

end Decimal

namespace Binary64

/-- The sign in front of the text of a magnitude. -/
def withSign (x : Binary64) (cs : List Char) : String :=
  String.ofList (if x.isNegative then '-' :: cs else cs)

/-- The number as JSON writes it. Of two equally near shortest decimals the even one is written. -/
def toJsonText (x : Binary64) : String :=
  let d := x.shortest .toEven
  x.withSign <|
    if x.isZero || (-5 ≤ d.leading && d.leading < 16) then d.positional ['.', '0'] else d.scientific

/-- The number as plain text. Of two equally near shortest decimals the greater one is written. -/
def toPlainText (x : Binary64) : String :=
  x.withSign ((x.shortest .up).positional [])

end Binary64

end Provision
