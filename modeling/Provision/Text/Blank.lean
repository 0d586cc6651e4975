/-!
# White space, words and lines

A property of characters is a list of closed ranges of code points, ascending and apart, and
membership is the only question asked of it (`inRanges_iff`).

White space is the Unicode property White_Space: 25 characters in ten ranges, a set that has not
changed since Unicode 6.3. Steps, platforms and numerals are trimmed by it and templates are cut
into words by it, so the same table decides "blank" everywhere. `isBlank_of_isWhitespace` says that
the table extends the ASCII test of the core library.

A line ends at a line feed, and a carriage return just before that line feed belongs to the line
end. The text after the last line feed is a line if it is not empty, and keeps a carriage return at
its end.
-/

namespace Provision.Text

/-- Whether a code point lies in one of the closed ranges. -/
def inRanges (ranges : List (Nat × Nat)) (n : Nat) : Bool :=
  ranges.any fun r => r.1 ≤ n && n ≤ r.2

theorem inRanges_iff {ranges : List (Nat × Nat)} {n : Nat} :
    inRanges ranges n = true ↔ ∃ r ∈ ranges, r.1 ≤ n ∧ n ≤ r.2 := by
  simp [inRanges]

/-! ## White space -/

/-- The closed ranges of code points that are white space, ascending and apart. -/
def blankRanges : List (Nat × Nat) :=
  [(0x09, 0x0D), (0x20, 0x20), (0x85, 0x85), (0xA0, 0xA0), (0x1680, 0x1680), (0x2000, 0x200A),
    (0x2028, 0x2029), (0x202F, 0x202F), (0x205F, 0x205F), (0x3000, 0x3000)]

/-- Whether a character is white space. -/
def isBlank (c : Char) : Bool := inRanges blankRanges c.toNat

theorem isBlank_of_isWhitespace {c : Char} (h : c.isWhitespace = true) : isBlank c = true := by
  simp [Char.isWhitespace] at h
  rcases h with ((h | h) | h) | h <;> subst h <;> decide

/-- The text without the white space at its end. -/
def trimEnd (cs : List Char) : List Char := (cs.reverse.dropWhile isBlank).reverse

/-- The text without the white space at both ends. -/
def trim (cs : List Char) : List Char := trimEnd (cs.dropWhile isBlank)

/-- Whether nothing but white space is in the text. -/
def isBlankText (cs : List Char) : Bool := cs.all isBlank

/-- The words of a text: its longest runs without white space. -/
def words (cs : List Char) : List (List Char) := (cs.splitOnP isBlank).filter (!·.isEmpty)

/-! ## Lines -/

/-- The line without the carriage return that a line feed behind it would claim. -/
def dropReturn (line : List Char) : List Char :=
  if line.getLast? = some '\r' then line.dropLast else line

/-- Cuts a text at its line feeds. -/
def lines (cs : List Char) : List (List Char) :=
  ended (cs.splitOnP (· == '\n'))
where
  /-- Every piece but the last was ended by a line feed. -/
  ended : List (List Char) → List (List Char)
    | [] => []
    | [last] => if last.isEmpty then [] else [last]
    | line :: rest => dropReturn line :: ended rest

end Provision.Text
