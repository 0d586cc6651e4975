import Provision.Json.Basic
import Provision.Number.Layout

/-!
# Writing JSON

Two spellings of a tree: `Json.compact` without any space, and `Json.pretty` with one item or member
a line, indented by two spaces a level, where an empty array or object stays on its line. In a
string only the quote, the backslash and the control characters below U+0020 are escaped.
-/

namespace Provision.Json

/-- The hexadecimal digit of a number below 16, in lower case. -/
def hexDigit (n : Nat) : Char :=
  if n < 10 then Char.ofNat ('0'.toNat + n) else Char.ofNat ('a'.toNat + (n - 10))

/-- A code unit as four hexadecimal digits behind its mark. -/
def unicodeEscape (n : Nat) : List Char :=
  ['\\', 'u', hexDigit (n / 4096 % 16), hexDigit (n / 256 % 16), hexDigit (n / 16 % 16),
    hexDigit (n % 16)]

/-- How a character stands in a string. -/
def escapeChar (c : Char) : List Char :=
  if c = '"' then ['\\', '"']
  else if c = '\\' then ['\\', '\\']
  else if 0x20 ≤ c.toNat then [c]
  else if c = '\n' then ['\\', 'n']
  else if c = '\t' then ['\\', 't']
  else if c = '\r' then ['\\', 'r']
  else if c.toNat = 0x08 then ['\\', 'b']
  else if c.toNat = 0x0C then ['\\', 'f']
  else unicodeEscape c.toNat

/-- A text as a JSON string. -/
def quote (s : String) : String :=
  String.ofList ('"' :: (s.toList.flatMap escapeChar ++ ['"']))

/-- The text of a tree that holds no other tree. -/
def literal (b : Bool) : String := if b then "true" else "false"

mutual

/-- The tree on one line, without spaces. -/
def compact : Json → String
  | .null => "null"
  | .bool b => literal b
  | .int n => toString n
  | .float x => x.toJsonText
  | .str s => quote s
  | .arr l => "[" ++ ",".intercalate (compactItems l) ++ "]"
  | .obj l => "\x7b" ++ ",".intercalate (compactMembers l) ++ "\x7d"

/-- The items of an array, each on its own. -/
def compactItems : List Json → List String
  | [] => []
  | j :: l => compact j :: compactItems l

/-- The members of an object, each on its own. -/
def compactMembers : List (String × Json) → List String
  | [] => []
  | (k, j) :: l => (quote k ++ ":" ++ compact j) :: compactMembers l

end

/-- A line end and the indentation of a level. -/
def newline (level : Nat) : String := String.ofList ('\n' :: List.replicate (2 * level) ' ')

/-- Parts between brackets, one a line, or the brackets alone if there are none. -/
def block (opening closing : String) (level : Nat) (parts : List String) : String :=
  if parts.isEmpty then opening ++ closing
  else
    opening ++ newline (level + 1) ++ ("," ++ newline (level + 1)).intercalate parts ++
      newline level ++ closing

mutual

/-- The tree in the indented spelling, as it stands at a level. -/
def prettyAt (level : Nat) : Json → String
  | .null => "null"
  | .bool b => literal b
  | .int n => toString n
  | .float x => x.toJsonText
  | .str s => quote s
  | .arr l => block "[" "]" level (prettyItems (level + 1) l)
  | .obj l => block "\x7b" "\x7d" level (prettyMembers (level + 1) l)

/-- The items of an array at a level. -/
def prettyItems (level : Nat) : List Json → List String
  | [] => []
  | j :: l => prettyAt level j :: prettyItems level l

/-- The members of an object at a level. -/
def prettyMembers (level : Nat) : List (String × Json) → List String
  | [] => []
  | (k, j) :: l => (quote k ++ ": " ++ prettyAt level j) :: prettyMembers level l

end

/-- The tree in the indented spelling. -/
def pretty (j : Json) : String := prettyAt 0 j

end Provision.Json
