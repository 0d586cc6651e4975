import Provision.Number.Layout
import Provision.Text.Blank
import Provision.Value.Basic

/-!
# Scalars

How a value is read as a flag, as a text and as an integer. A collection has neither a text nor an
integer; a text is an integer when it is a decimal numeral, white space around it aside.
-/

namespace Provision.Value

/-- Whether a value counts as set: null, `false`, zero, and whatever is empty do not. -/
def isTruthy : Value → Bool
  | .null => false
  | .bool b => b
  | .int n => n != 0
  | .float x => !x.isZero
  | .str s => !s.isEmpty
  | .list l => !l.isEmpty
  | .map l => !l.isEmpty

/-- The text of a scalar. -/
def toText? : Value → Option String
  | .bool b => some (if b then "true" else "false")
  | .int n => some (toString n.toInt)
  | .float x => some x.toPlainText
  | .str s => some s
  | .null | .list _ | .map _ => none

/-- The number that decimal digits stand for. Only ASCII digits count. -/
def numeral? (cs : List Char) : Option Nat :=
  if cs.isEmpty then none
  else cs.foldl (fun n? c => n?.bind fun n =>
    if c.isDigit then some (10 * n + (c.toNat - '0'.toNat)) else none) (some 0)

/-- The integer that a text stands for: white space around it, one sign, decimal digits. -/
def parseInt? (s : String) : Option Int64 :=
  match Text.trim s.toList with
  | '-' :: cs => (numeral? cs).bind fun n => Word.ofInt? (-(n : Int))
  | '+' :: cs => (numeral? cs).bind fun n => Word.ofInt? n
  | cs => (numeral? cs).bind fun n => Word.ofInt? n

/-- The integer of a scalar. An integral number beyond 64 bits gives the nearest one within. -/
def toInt? : Value → Option Int64
  | .int n => some n
  | .float x => x.toInt?.map Word.nearest
  | .bool b => some (if b then 1 else 0)
  | .str s => parseInt? s
  | .null | .list _ | .map _ => none

end Provision.Value
