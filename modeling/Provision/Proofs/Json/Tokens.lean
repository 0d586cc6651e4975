import Provision.Json.Printer
import Provision.Json.Token
import Provision.Proofs.Number.Layout

/-!
# Tokens of printed trees

Cutting a spelling of a tree into tokens gives the tokens of the tree, be it the indented spelling
at any level (`cuts_prettyAt`) or the compact one (`cuts_compact`). What comes behind a tree must
not go on with a numeric character (`Apart`), or a number at the end would take it up; in a printed
tree that is a comma, a line end or a closing mark. A number is cut as what its own text stands for
(`Source.ofSpelling`). For integers of 64 bits that is the number. For other numbers it need not be:
reading a number rounds twice, so the shortest text of a number may stand for a neighbour.
-/

namespace Provision.Json

mutual

/-- The tokens of a tree. -/
def tokens : Json → List Token
  | .null => [.scalar .null]
  | .bool b => [.scalar (.bool b)]
  | .int n => [.scalar (.ofSpelling (toString n))]
  | .float x => [.scalar (.ofSpelling x.toJsonText)]
  | .str s => [.str (some s)]
  | .arr l => .openArr :: ([Token.comma].intercalate (itemTokens l) ++ [.closeArr])
  | .obj l => .openObj :: ([Token.comma].intercalate (memberTokens l) ++ [.closeObj])

/-- The tokens of each item. -/
def itemTokens : List Json → List (List Token)
  | [] => []
  | j :: l => tokens j :: itemTokens l

/-- The tokens of each member. -/
def memberTokens : List (String × Json) → List (List Token)
  | [] => []
  | (k, j) :: l => (.str (some k) :: .colon :: tokens j) :: memberTokens l

end

namespace Token

variable {cs rest : List Char}

/-! ## Strings -/

theorem unit?_of_lt {n : Nat} (h : n < 0x20) :
    unit? (hexDigit (n / 4096 % 16)) (hexDigit (n / 256 % 16)) (hexDigit (n / 16 % 16))
      (hexDigit (n % 16)) =
      some n := by
  revert n
  decide

/-- The escape of a control character is read as this character. -/
theorem stringChar?_unicodeEscape {n : Nat} (h : n < 0x20) :
    stringChar? (unicodeEscape n ++ rest) = some (some (.ofNat n), rest) := by
  have hescape : stringChar? (unicodeEscape n ++ rest) = unicodeChar?
    (hexDigit (n / 4096 % 16) :: hexDigit (n / 256 % 16) :: hexDigit (n / 16 % 16) ::
      hexDigit (n % 16) :: rest) := rfl
  rw [hescape, unicodeChar?, unit?_of_lt h]
  simp only [Option.bind_eq_bind, Option.bind_some, Option.pure_def]
  rw [if_neg (by omega), if_neg (by omega)]

/-- A character is read back from the way it stands in a string. -/
theorem stringChar?_escapeChar (c : Char) :
    stringChar? (escapeChar c ++ rest) = some (some c, rest) := by
  unfold escapeChar
  split
  · next h => subst h; rfl
  split
  · next h => subst h; rfl
  split
  · next hslash hplain =>
    have hbare : ¬ (c = '\\' ∨ c.toNat < 0x20) := not_or.2 ⟨hslash, Nat.not_lt.2 hplain⟩
    rw [List.singleton_append, stringChar?, if_neg hbare]
    · exact fun _ h _ => hslash h
    · exact fun _ _ h _ => hslash h
  split
  · next h => subst h; rfl
  split
  · next h => subst h; rfl
  split
  · next h => subst h; rfl
  split
  · next h =>
    rw [← Char.ofNat_toNat c, h]
    rfl
  split
  · next h =>
    rw [← Char.ofNat_toNat c, h]
    rfl
  · next hcontrol _ _ _ _ _ =>
    rw [stringChar?_unicodeEscape (Nat.not_le.1 hcontrol), Char.ofNat_toNat]

/-- No character is written so that it begins with a quote. -/
theorem exists_escapeChar_cons (c : Char) : ∃ d cs, escapeChar c = d :: cs ∧ d ≠ '"' := by
  unfold escapeChar
  split
  · exact ⟨_, _, rfl, by decide⟩
  split
  · exact ⟨_, _, rfl, by decide⟩
  split
  · next hquote _ _ => exact ⟨_, _, rfl, hquote⟩
  all_goals (repeat' split) <;> exact ⟨_, _, rfl, by decide⟩

/-- One character is taken off a string that does not end there. -/
theorem string?_of_stringChar? {c : Option Char} (hquote : ∀ r, cs ≠ '"' :: r)
    (h : stringChar? cs = some (c, rest)) :
    string? cs = (string? rest).map fun (s, rest) => (c :: s, rest) := by
  rw [string?]
  · split
    · next hn =>
      rw [h] at hn
      cases hn
    · next hs =>
      rw [h] at hs
      cases hs
      rfl
  · exact hquote

/-- The characters of a text are read back up to the closing quote. -/
theorem string?_flatMap_escapeChar (l : List Char) :
    string? (l.flatMap escapeChar ++ '"' :: rest) = some (l.map some, rest) := by
  induction l with
  | nil =>
    rw [List.flatMap_nil, List.nil_append, string?]
    rfl
  | cons c l ih =>
    have hread : stringChar? (escapeChar c ++ (l.flatMap escapeChar ++ '"' :: rest)) =
        some (some c, l.flatMap escapeChar ++ '"' :: rest) := stringChar?_escapeChar c
    have hquote : ∀ r, escapeChar c ++ (l.flatMap escapeChar ++ '"' :: rest) ≠ '"' :: r := by
      obtain ⟨d, cs, hcs, hd⟩ := exists_escapeChar_cons c
      intro r hr
      rw [hcs] at hr
      exact hd (List.cons.inj hr).1
    rw [List.flatMap_cons, List.append_assoc, string?_of_stringChar? hquote hread, ih]
    rfl

theorem ofChars_map_some (l : List Char) :
    ofChars (l.map some) = .str (some (String.ofList l)) := by
  have hall : (l.map some).mapM id = some l := by
    induction l with
    | nil => rfl
    | cons c l ih =>
      rw [List.map_cons, List.mapM_cons, ih]
      rfl
  rw [ofChars, hall]
  rfl

/-! ## Cutting -/

/-- How tokens of a fixed spelling are written, the colon with a blank behind it or without. -/
def marks : List (String × Token) :=
  [("[", .openArr), ("]", .closeArr), ("\x7b", .openObj), ("\x7d", .closeObj), (",", .comma),
    (":", .colon), (": ", .colon), ("null", .scalar .null), (literal true, .scalar (.bool true)),
    (literal false, .scalar (.bool false))]

/-- Each mark is one token, whatever stands behind it. -/
theorem scan_mark {s : String} {t : Token} (h : (s, t) ∈ marks) :
    scan (s.toList ++ rest) = (scan rest).map (t :: ·) := by
  simp only [marks, List.mem_cons, Prod.mk.injEq, List.not_mem_nil, or_false] at h
  rcases h with h | h | h | h | h | h | h | h | h | h <;> obtain ⟨rfl, rfl⟩ := h
  · show scan ('[' :: rest) = _
    rw [scan]
  · show scan (']' :: rest) = _
    rw [scan]
  · show scan ('\x7b' :: rest) = _
    rw [scan]
  · show scan ('\x7d' :: rest) = _
    rw [scan]
  · show scan (',' :: rest) = _
    rw [scan]
  · show scan (':' :: rest) = _
    rw [scan]
  · show scan (':' :: ' ' :: rest) = _
    rw [scan, scan]
  · show scan ('n' :: 'u' :: 'l' :: 'l' :: rest) = _
    rw [scan]
  · show scan ('t' :: 'r' :: 'u' :: 'e' :: rest) = _
    rw [scan]
  · show scan ('f' :: 'a' :: 'l' :: 's' :: 'e' :: rest) = _
    rw [scan]

theorem scan_newline (level : Nat) : scan ((newline level).toList ++ rest) = scan rest := by
  have hspaces : ∀ k, scan (List.replicate k ' ' ++ rest) = scan rest := by
    intro k
    induction k with
    | zero => rfl
    | succ k ih => rw [List.replicate_succ, List.cons_append, scan, ih]
  rw [newline, String.toList_ofList, List.cons_append, scan, hspaces]

/-- A quoted text is one token. -/
theorem scan_quote (s : String) :
    scan ((quote s).toList ++ rest) = (scan rest).map (.str (some s) :: ·) := by
  rw [quote, String.toList_ofList, List.cons_append, List.append_assoc, List.singleton_append, scan]
  split
  · next hn =>
    rw [string?_flatMap_escapeChar] at hn
    cases hn
  · next hs =>
    rw [string?_flatMap_escapeChar] at hs
    cases hs
    rw [ofChars_map_some, String.ofList_toList]

/-- What stands behind a number may not go on with a numeric character. -/
def Apart (cs : List Char) : Prop := ∀ c ∈ cs.head?, Numeral.isNumeric c = false

theorem apart_cons {c : Char} (h : Numeral.isNumeric c = false) : Apart (c :: cs) := by
  intro d hd
  cases hd
  exact h

theorem takeWhile_of_apart (h : Apart cs) : cs.takeWhile Numeral.isNumeric = [] := by
  cases cs with
  | nil => rfl
  | cons c cs => exact List.takeWhile_cons_of_neg (ne_true_of_eq_false (h c rfl))

theorem dropWhile_of_apart (h : Apart cs) : cs.dropWhile Numeral.isNumeric = cs := by
  cases cs with
  | nil => rfl
  | cons c cs => exact List.dropWhile_cons_of_neg (ne_true_of_eq_false (h c rfl))

/-- A spelled number is one token if nothing stands behind it that could belong to it. -/
theorem scan_spelled {text : String} {s : Source} (h : Spells text s) (hrest : Apart rest) :
    scan (text.toList ++ rest) = (scan rest).map (.scalar s :: ·) := by
  obtain ⟨n, hn, rfl⟩ := h
  obtain ⟨⟨c, cs, hcs, hbegins⟩, hnumeric⟩ := Numeral.begins_of_ofChars? hn
  rw [hcs] at hn hnumeric ⊢
  have htail : ∀ d ∈ cs, Numeral.isNumeric d = true := (List.forall_mem_cons.1 hnumeric).2
  have htake : (cs ++ rest).takeWhile Numeral.isNumeric = cs := by
    rw [List.takeWhile_append_of_pos htail, takeWhile_of_apart hrest, List.append_nil]
  have hdrop : (cs ++ rest).dropWhile Numeral.isNumeric = rest := by
    rw [List.dropWhile_append_of_pos htail, dropWhile_of_apart hrest]
  rw [List.cons_append, scan, htake, hdrop, hn]
  · rfl
  -- a numeral begins as no other token does
  all_goals (intros; subst_vars; exact absurd hbegins (by decide))

/-! ## Trees -/

/-- The text is cut into the tokens, whatever is behind it that does not go on with a numeric
character. -/
def Cuts (text : String) (ts : List Token) : Prop :=
  ∀ rest, Apart rest → scan (text.toList ++ rest) = (scan rest).map (ts ++ ·)

/-- A text that is cut as a comma, and that no number goes on with. -/
structure Separates (sep : String) : Prop where
  scan_append : ∀ rest, scan (sep.toList ++ rest) = (scan rest).map (.comma :: ·)
  apart : ∀ rest, Apart (sep.toList ++ rest)

theorem separates_comma : Separates "," where
  scan_append _ := scan_mark (by simp [marks])
  apart _ := apart_cons rfl

/-- Behind the comma a new line may begin. -/
theorem separates_newline (level : Nat) : Separates ("," ++ newline level) where
  scan_append rest := by
    rw [String.toList_append, List.append_assoc, separates_comma.scan_append, scan_newline]
  apart rest := by
    rw [String.toList_append, List.append_assoc]
    exact separates_comma.apart _

/-- Parts with separators between them. -/
theorem cuts_intercalate {sep : String}
    (hsep : Separates sep) {part : String} {parts : List String} {ts : List Token}
    {tss : List (List Token)} (hpart : Cuts part ts) (h : List.Forall₂ Cuts parts tss) :
    Cuts (sep.intercalate (part :: parts)) ([Token.comma].intercalate (ts :: tss)) := by
  induction h generalizing part ts with
  | nil =>
    rw [String.intercalate_singleton, List.intercalate_singleton]
    exact hpart
  | cons hnext _ ih =>
    intro rest hrest
    rw [String.intercalate_cons_cons, List.intercalate_cons_cons]
    simp only [String.toList_append, List.append_assoc]
    rw [hpart _ (hsep.apart _), hsep.scan_append, ih hnext rest hrest]
    simp only [Option.map_map, Function.comp_def, List.singleton_append]

/-- Parts between brackets, one a line. -/
theorem cuts_block {level : Nat} {opening closing : String} {before after : Token}
    {parts : List String} {tss : List (List Token)} (h : List.Forall₂ Cuts parts tss)
    (hopening : (opening, before) ∈ marks) (hclosing : (closing, after) ∈ marks) :
    Cuts (block opening closing level parts)
      (before :: ([Token.comma].intercalate tss ++ [after])) := by
  intro rest hrest
  cases h with
  | nil =>
    rw [block, List.isEmpty_nil, if_pos rfl, String.toList_append, List.append_assoc,
      scan_mark hopening, scan_mark hclosing]
    simp only [Option.map_map, Function.comp_def, List.intercalate_nil, List.cons_append,
      List.nil_append]
  | @cons part ts parts tss hpart hparts =>
    have happart : Apart ((newline level).toList ++ (closing.toList ++ rest)) := by
      rw [newline, String.toList_ofList]
      exact apart_cons rfl
    rw [block, if_neg (by simp)]
    simp only [String.toList_append, List.append_assoc]
    rw [scan_mark hopening, scan_newline,
      cuts_intercalate (separates_newline _) hpart hparts _ happart, scan_newline,
      scan_mark hclosing]
    simp only [Option.map_map, Function.comp_def, List.cons_append, List.append_assoc,
      List.nil_append]

/-- Parts between brackets on one line. The closing bracket stands right behind the last part. -/
theorem cuts_brackets {opening closing : String} {before after : Token} {parts : List String}
    {tss : List (List Token)} (h : List.Forall₂ Cuts parts tss)
    (hopening : (opening, before) ∈ marks) (hclosing : (closing, after) ∈ marks)
    (happart : ∀ rest, Apart (closing.toList ++ rest)) :
    Cuts (opening ++ ",".intercalate parts ++ closing)
      (before :: ([Token.comma].intercalate tss ++ [after])) := by
  intro rest hrest
  simp only [String.toList_append, List.append_assoc]
  rw [scan_mark hopening]
  cases h with
  | nil =>
    rw [String.intercalate_nil, String.toList_empty, List.nil_append, scan_mark hclosing]
    simp only [Option.map_map, Function.comp_def, List.intercalate_nil, List.cons_append,
      List.nil_append]
  | cons hpart hparts =>
    rw [cuts_intercalate separates_comma hpart hparts _ (happart rest), scan_mark hclosing]
    simp only [Option.map_map, Function.comp_def, List.cons_append, List.append_assoc,
      List.nil_append]

/-- A number is cut as what its text stands for. -/
theorem cuts_spelled {text : String} (h : ∃ s, Spells text s) :
    Cuts text [.scalar (.ofSpelling text)] := by
  obtain ⟨s, hs⟩ := h
  exact fun _ hrest => scan_spelled hs.ofSpelling hrest

theorem cuts_null : Cuts "null" (tokens .null) := fun _ _ => scan_mark (by simp [marks])

theorem cuts_literal (b : Bool) : Cuts (literal b) (tokens (.bool b)) := fun _ _ =>
  scan_mark (by cases b <;> simp [marks])

theorem cuts_quote (s : String) : Cuts (quote s) (tokens (.str s)) := fun _ _ => scan_quote s

/-- A member is its name, a colon and its tree. -/
theorem cuts_member {colon text : String} {ts : List Token} (k : String)
    (hcolon : (colon, Token.colon) ∈ marks) (h : Cuts text ts) :
    Cuts (quote k ++ colon ++ text) (.str (some k) :: .colon :: ts) := by
  intro rest hrest
  simp only [String.toList_append, List.append_assoc]
  rw [scan_quote, scan_mark hcolon, h rest hrest]
  simp only [Option.map_map, Function.comp_def, List.cons_append]

mutual

/-- A tree in the indented spelling is cut into its tokens. -/
theorem cuts_prettyAt (level : Nat) (j : Json) : Cuts (prettyAt level j) (tokens j) := by
  match j with
  | .null => exact cuts_null
  | .bool b => exact cuts_literal b
  | .int n => exact cuts_spelled (exists_spells_toString n)
  | .float x => exact cuts_spelled x.exists_spells_toJsonText
  | .str s => exact cuts_quote s
  | .arr l => exact cuts_block (cuts_prettyItems (level + 1) l) (by simp [marks]) (by simp [marks])
  | .obj l =>
    exact cuts_block (cuts_prettyMembers (level + 1) l) (by simp [marks]) (by simp [marks])

/-- The items of an indented list are cut one by one. -/
theorem cuts_prettyItems (level : Nat) (l : List Json) :
    List.Forall₂ Cuts (prettyItems level l) (itemTokens l) := by
  match l with
  | [] => exact .nil
  | j :: l => exact .cons (cuts_prettyAt level j) (cuts_prettyItems level l)

theorem cuts_prettyMembers (level : Nat) (l : List (String × Json)) :
    List.Forall₂ Cuts (prettyMembers level l) (memberTokens l) := by
  match l with
  | [] => exact .nil
  | (k, j) :: l =>
    exact .cons (cuts_member k (by simp [marks]) (cuts_prettyAt level j))
      (cuts_prettyMembers level l)

end

mutual

/-- A tree in the compact spelling is cut into its tokens. -/
theorem cuts_compact (j : Json) : Cuts (compact j) (tokens j) := by
  match j with
  | .null => exact cuts_null
  | .bool b => exact cuts_literal b
  | .int n => exact cuts_spelled (exists_spells_toString n)
  | .float x => exact cuts_spelled x.exists_spells_toJsonText
  | .str s => exact cuts_quote s
  | .arr l =>
    exact cuts_brackets (cuts_compactItems l) (by simp [marks]) (by simp [marks]) fun _ =>
      apart_cons rfl
  | .obj l =>
    exact cuts_brackets (cuts_compactMembers l) (by simp [marks]) (by simp [marks]) fun _ =>
      apart_cons rfl

theorem cuts_compactItems (l : List Json) : List.Forall₂ Cuts (compactItems l) (itemTokens l) := by
  match l with
  | [] => exact .nil
  | j :: l => exact .cons (cuts_compact j) (cuts_compactItems l)

theorem cuts_compactMembers (l : List (String × Json)) :
    List.Forall₂ Cuts (compactMembers l) (memberTokens l) := by
  match l with
  | [] => exact .nil
  | (k, j) :: l =>
    exact .cons (cuts_member k (by simp [marks]) (cuts_compact j)) (cuts_compactMembers l)

end

/-- A whole text is cut into the tokens of its tree. -/
theorem Cuts.scan_eq {text : String} {ts : List Token} (h : Cuts text ts) :
    scan text.toList = some ts := by
  have hall := h [] (fun c hc => by cases hc)
  rw [List.append_nil, scan] at hall
  rw [hall, Option.map_some, List.append_nil]

/-- A line end behind the text makes no difference. -/
theorem Cuts.scan_line {text : String} {ts : List Token} (h : Cuts text ts) :
    scan (text ++ "\n").toList = some ts := by
  have hline := h ['\n'] (apart_cons rfl)
  rw [scan, scan] at hline
  rw [String.toList_append]
  exact hline.trans (by rw [Option.map_some, List.append_nil])

end Token

end Provision.Json
