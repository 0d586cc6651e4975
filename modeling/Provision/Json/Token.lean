import Provision.Json.Source

/-!
# JSON tokens

A text is first cut into tokens: marks, strings and scalars, with white space between them dropped.
The grammar is strict: a string holds no bare control character, and numbers are numerals. A string
with half of a surrogate pair follows the grammar and is no text. Each reader returns the rest of
the text, and the rest is shorter (`length_lt_of_stringChar?`, `length_lt_of_string?`), which is why
cutting ends.
-/

namespace Provision.Json

/-- A token of a JSON text. -/
inductive Token where
  | openArr
  | closeArr
  | openObj
  | closeObj
  | comma
  | colon
  /-- A string, which is a value or a name, unless it holds half of a surrogate pair. -/
  | str (s : Option String)
  /-- A literal or a number. -/
  | scalar (s : Source)

namespace Token

/-- The value of a hexadecimal digit of either case. -/
def hexValue? (c : Char) : Option Nat :=
  if c.isDigit then some (c.toNat - '0'.toNat)
  else if 'a' ≤ c ∧ c ≤ 'f' then some (c.toNat - 'a'.toNat + 10)
  else if 'A' ≤ c ∧ c ≤ 'F' then some (c.toNat - 'A'.toNat + 10)
  else none

/-- The code unit of four hexadecimal digits. -/
def unit? (a b c d : Char) : Option Nat := do
  let a ← hexValue? a
  let b ← hexValue? b
  let c ← hexValue? c
  let d ← hexValue? d
  return ((a * 16 + b) * 16 + c) * 16 + d

/-- The second surrogate whose escape a text begins with, and what is behind it. -/
def secondSurrogate? : List Char → Option (Nat × List Char)
  | '\\' :: 'u' :: a :: b :: c :: d :: rest => do
    let unit ← unit? a b c d
    if 0xDC00 ≤ unit ∧ unit < 0xE000 then return (unit, rest) else none
  | _ => none

/-- The character of a code unit escape, from its digits on. A first surrogate takes the escape of a
second one behind it. Either of them alone is no character. -/
def unicodeChar? : List Char → Option (Option Char × List Char)
  | a :: b :: c :: d :: rest => do
    let unit ← unit? a b c d
    if 0xD800 ≤ unit ∧ unit < 0xDC00 then
      match secondSurrogate? rest with
      | some (second, rest) =>
        return (some (.ofNat (0x10000 + (unit - 0xD800) * 0x400 + (second - 0xDC00))), rest)
      | none => return (none, rest)
    else if 0xDC00 ≤ unit ∧ unit < 0xE000 then return (none, rest)
    else return (some (.ofNat unit), rest)
  | _ => none

/-- The character that a letter behind a backslash stands for. -/
def escapeLetter? (c : Char) : Option Char :=
  if c = '"' ∨ c = '\\' ∨ c = '/' then some c
  else if c = 'b' then some (Char.ofNat 0x08)
  else if c = 'f' then some (Char.ofNat 0x0C)
  else if c = 'n' then some '\n'
  else if c = 'r' then some '\r'
  else if c = 't' then some '\t'
  else none

/-- The next character inside a string, escaped or not. -/
def stringChar? : List Char → Option (Option Char × List Char)
  | '\\' :: 'u' :: rest => unicodeChar? rest
  | '\\' :: c :: rest => (escapeLetter? c).map (some ·, rest)
  | c :: rest => if c = '\\' ∨ c.toNat < 0x20 then none else some (some c, rest)
  | [] => none

theorem length_lt_of_secondSurrogate? {cs rest : List Char} {n : Nat}
    (h : secondSurrogate? cs = some (n, rest)) : rest.length < cs.length := by
  unfold secondSurrogate? at h
  split at h
  · simp only [Option.bind_eq_bind, Option.bind_eq_some_iff] at h
    obtain ⟨_, -, h⟩ := h
    split at h
    · simp only [Option.pure_def, Option.some.injEq, Prod.mk.injEq] at h
      obtain ⟨-, rfl⟩ := h
      simp only [List.length_cons]
      omega
    · simp at h
  · simp at h

/-- An escaped character takes up some of the text. -/
theorem length_lt_of_unicodeChar? {cs rest : List Char} {c : Option Char}
    (h : unicodeChar? cs = some (c, rest)) : rest.length < cs.length := by
  unfold unicodeChar? at h
  split at h
  · simp only [Option.bind_eq_bind, Option.bind_eq_some_iff] at h
    obtain ⟨_, -, h⟩ := h
    simp only [List.length_cons]
    split at h
    · split at h
      · next hs =>
        simp only [Option.pure_def, Option.some.injEq, Prod.mk.injEq] at h
        obtain ⟨-, rfl⟩ := h
        have := length_lt_of_secondSurrogate? hs
        omega
      · simp only [Option.pure_def, Option.some.injEq, Prod.mk.injEq] at h
        obtain ⟨-, rfl⟩ := h
        omega
    · split at h <;>
        (simp only [Option.pure_def, Option.some.injEq, Prod.mk.injEq] at h
         obtain ⟨-, rfl⟩ := h
         omega)
  · simp at h

theorem length_lt_of_stringChar? {cs rest : List Char} {c : Option Char}
    (h : stringChar? cs = some (c, rest)) : rest.length < cs.length := by
  unfold stringChar? at h
  split at h
  · have := length_lt_of_unicodeChar? h
    simp only [List.length_cons]
    omega
  · simp only [Option.map_eq_some_iff, Prod.mk.injEq] at h
    obtain ⟨_, -, -, rfl⟩ := h
    simp only [List.length_cons]
    omega
  · split at h
    · simp at h
    · simp only [Option.some.injEq, Prod.mk.injEq] at h
      obtain ⟨-, rfl⟩ := h
      simp
  · simp at h

/-- The characters of a string, from behind its opening quote, and the text behind the closing
one. -/
def string? (cs : List Char) : Option (List (Option Char) × List Char) :=
  match cs with
  | '"' :: rest => some ([], rest)
  | cs =>
    match h : stringChar? cs with
    | none => none
    | some (c, rest) =>
      have := length_lt_of_stringChar? h
      (string? rest).map fun (s, rest) => (c :: s, rest)
termination_by cs.length

/-- So does a string, up to the quote that ends it. -/
theorem length_lt_of_string? {cs rest : List Char} {s : List (Option Char)}
    (h : string? cs = some (s, rest)) : rest.length < cs.length := by
  fun_induction string? cs generalizing s rest with
  | case1 =>
    simp only [Option.some.injEq, Prod.mk.injEq] at h
    obtain ⟨-, rfl⟩ := h
    simp
  | case2 => simp at h
  | case3 cs _ c rest' hc hlt ih =>
    simp only [Option.map_eq_some_iff, Prod.mk.injEq] at h
    obtain ⟨⟨s', r⟩, hs, -, rfl⟩ := h
    exact Nat.lt_trans (ih hs) hlt

/-- The text of some characters, if there are no gaps. -/
def ofChars (cs : List (Option Char)) : Token := .str ((cs.mapM id).map String.ofList)

/-- Cuts a text into tokens, if it consists of nothing else. -/
def scan (cs : List Char) : Option (List Token) :=
  match cs with
  | [] => some []
  | ' ' :: rest | '\t' :: rest | '\n' :: rest | '\r' :: rest => scan rest
  | '[' :: rest => (scan rest).map (.openArr :: ·)
  | ']' :: rest => (scan rest).map (.closeArr :: ·)
  | '\x7b' :: rest => (scan rest).map (.openObj :: ·)
  | '\x7d' :: rest => (scan rest).map (.closeObj :: ·)
  | ',' :: rest => (scan rest).map (.comma :: ·)
  | ':' :: rest => (scan rest).map (.colon :: ·)
  | 'n' :: 'u' :: 'l' :: 'l' :: rest => (scan rest).map (.scalar .null :: ·)
  | 't' :: 'r' :: 'u' :: 'e' :: rest => (scan rest).map (.scalar (.bool true) :: ·)
  | 'f' :: 'a' :: 'l' :: 's' :: 'e' :: rest => (scan rest).map (.scalar (.bool false) :: ·)
  | '"' :: rest =>
    match h : string? rest with
    | none => none
    | some (s, rest') =>
      have := length_lt_of_string? h
      (scan rest').map (ofChars s :: ·)
  | c :: rest =>
    have := (List.dropWhile_suffix (l := rest) Numeral.isNumeric).length_le
    (Numeral.ofChars? (c :: rest.takeWhile Numeral.isNumeric)).bind fun n =>
      (scan (rest.dropWhile Numeral.isNumeric)).map (.scalar (.ofNumeral n) :: ·)
termination_by cs.length
decreasing_by all_goals (simp only [List.length_cons]; omega)

end Token

end Provision.Json
