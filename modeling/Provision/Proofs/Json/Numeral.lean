import Mathlib.Data.List.Basic
import Mathlib.Data.List.TakeWhile
import Provision.Json.Source

/-!
# Numerals of written numbers

A text spells a source (`Spells`) if it is a numeral that stands for it. What is written for an
integer spells that integer, as long as it fits 64 bits (`Spells.int`). Of any numeral a scanner has
to know only how it begins and that there are none but numeric characters in it
(`begins_of_ofChars?`): so it can be told from all other tokens, and its end from what comes behind
it.
-/

namespace Provision.Json

namespace Numeral

variable {cs : List Char} {n : Numeral}

/-- The characters that a numeral may begin with. -/
def Begins (c : Char) : Prop := c = '-' ∨ c.isDigit = true

instance : DecidablePred Begins := fun c => inferInstanceAs (Decidable (c = '-' ∨ c.isDigit = true))

theorem isNumeric_of_isDigit {c : Char} (h : c.isDigit = true) : isNumeric c = true := by
  unfold isNumeric
  rw [h, Bool.true_or]

theorem Begins.isNumeric {c : Char} (h : Begins c) : isNumeric c = true := by
  rcases h with rfl | h
  · rfl
  · exact isNumeric_of_isDigit h

/-! ## Decimal digits -/

theorem digitsValue_toDigits (n : Nat) : digitsValue (Nat.toDigits 10 n) = n := by
  have hfold : digitsValue (Nat.toDigits 10 n) = Nat.ofDigitChars 10 (Nat.toDigits 10 n) 0 :=
    Nat.ofDigitChars_eq_foldl.symm
  rw [hfold, Nat.ofDigitChars_ten_toDigits]

theorem isDigit_of_mem_toDigits {n : Nat} {c : Char} (h : c ∈ Nat.toDigits 10 n) :
    c.isDigit = true :=
  Nat.isDigit_of_mem_toDigits (by decide) (by decide) h

/-- A positive number is written without a zero in front. -/
theorem head?_toDigits_ne {n : Nat} (h : 0 < n) : (Nat.toDigits 10 n).head? ≠ some '0' := by
  induction n using Nat.strongRecOn with
  | _ n ih =>
    rw [Nat.toDigits_eq_if (by decide)]
    split
    · next hlt =>
      have hall : ∀ n < 10, 0 < n → [n.digitChar].head? ≠ some '0' := by decide
      exact hall n hlt h
    · next hle =>
      rw [List.head?_append_of_ne_nil _ Nat.toDigits_ne_nil]
      exact ih (n / 10) (by omega) (by omega)

/-- Digits that may stand before a point: there are some, and no zero too many. -/
structure Whole (ds : List Char) : Prop where
  digits : ∀ c ∈ ds, c.isDigit = true
  ne_nil : ds ≠ []
  unpadded : ¬ (ds.head? = some '0' ∧ 1 < ds.length)

theorem Whole.singleton {c : Char} (h : c.isDigit = true) : Whole [c] where
  digits d hd := by
    rw [List.mem_singleton.1 hd]
    exact h
  ne_nil := List.cons_ne_nil _ _
  unpadded h := Nat.lt_irrefl 1 h.2

/-- What is written for a number has no zero too many. -/
theorem Whole.toDigits (n : Nat) : Whole (Nat.toDigits 10 n) where
  digits _ := isDigit_of_mem_toDigits
  ne_nil := Nat.toDigits_ne_nil
  unpadded := by
    rintro ⟨hhead, hlength⟩
    cases n with
    | zero => simp [Nat.toDigits_zero] at hlength
    | succ n => exact head?_toDigits_ne (Nat.succ_pos n) hhead

/-! ## What a numeral is made of -/

/-- Digits in front may be left out of account. -/
theorem isNumeric_of_dropWhile (h : ∀ c ∈ cs.dropWhile Char.isDigit, isNumeric c = true) :
    ∀ c ∈ cs, isNumeric c = true := by
  intro c hc
  rw [← List.takeWhile_append_dropWhile (p := Char.isDigit) (l := cs)] at hc
  rcases List.mem_append.1 hc with hc | hc
  · exact isNumeric_of_isDigit (List.all_eq_true.1 List.all_takeWhile c hc)
  · exact h c hc

theorem isNumeric_of_unsigned? {k : Nat} (h : exponent?.unsigned? cs = some k) :
    ∀ c ∈ cs, isNumeric c = true := by
  unfold exponent?.unsigned? at h
  split at h
  · next hall => exact fun c hc => isNumeric_of_isDigit (List.all_eq_true.1 hall.2 c hc)
  · cases h

theorem isNumeric_of_exponent? {e : Int} (h : exponent? cs = some e) :
    ∀ c ∈ cs, isNumeric c = true := by
  unfold exponent? at h
  split at h
  · obtain ⟨z, hz, -⟩ := Option.map_eq_some_iff.1 h
    obtain ⟨k, hk, -⟩ := Option.bind_eq_some_iff.1 hz
    exact List.forall_mem_cons.2 ⟨rfl, isNumeric_of_unsigned? hk⟩
  · obtain ⟨k, hk, -⟩ := Option.map_eq_some_iff.1 h
    exact List.forall_mem_cons.2 ⟨rfl, isNumeric_of_unsigned? hk⟩
  · obtain ⟨k, hk, -⟩ := Option.map_eq_some_iff.1 h
    exact isNumeric_of_unsigned? hk

theorem isNumeric_of_fraction? {fraction : Option (List Char)} {rest : List Char}
    (h : fraction? cs = some (fraction, rest)) (hrest : ∀ c ∈ rest, isNumeric c = true) :
    ∀ c ∈ cs, isNumeric c = true := by
  unfold fraction? at h
  split at h
  · dsimp only at h
    split at h
    · cases h
    · cases h
      exact List.forall_mem_cons.2 ⟨rfl, isNumeric_of_dropWhile hrest⟩
  · cases h
    exact hrest

/-- A numeral begins with a minus or a digit and consists of numeric characters. -/
theorem begins_of_ofChars? (h : ofChars? cs = some n) :
    (∃ c rest, cs = c :: rest ∧ Begins c) ∧ ∀ c ∈ cs, isNumeric c = true := by
  unfold ofChars? at h
  split at h
  next negative unsigned hsign =>
  simp only [Option.bind_eq_bind, Option.pure_def] at h
  split at h
  · cases h
  next hwhole =>
  obtain ⟨⟨fraction, rest⟩, hfraction, hexponent⟩ := Option.bind_eq_some_iff.1 h
  have hrest : ∀ c ∈ rest, isNumeric c = true := by
    cases rest with
    | nil => simp
    | cons mark cs =>
      dsimp only at hexponent
      split at hexponent
      · cases hexponent
      · next hmark =>
        obtain ⟨e, he, -⟩ := Option.bind_eq_some_iff.1 hexponent
        refine List.forall_mem_cons.2 ⟨?_, isNumeric_of_exponent? he⟩
        have hor : mark = 'e' ∨ mark = 'E' := by tauto
        rcases hor with rfl | rfl <;> rfl
  have hunsigned : ∀ c ∈ unsigned, isNumeric c = true :=
    isNumeric_of_dropWhile (isNumeric_of_fraction? hfraction hrest)
  -- there is a digit before the fraction
  have hfirst : ∃ c rest, unsigned = c :: rest ∧ c.isDigit = true := by
    cases unsigned with
    | nil => exact absurd (.inl rfl) hwhole
    | cons c rest =>
      refine ⟨c, rest, rfl, ?_⟩
      by_contra hdigit
      rw [List.takeWhile_cons_of_neg hdigit] at hwhole
      exact hwhole (.inl rfl)
  obtain ⟨c, rest', rfl, hdigit⟩ := hfirst
  split at hsign
  · next cs =>
    cases hsign
    exact ⟨⟨'-', _, rfl, .inl rfl⟩, List.forall_mem_cons.2 ⟨rfl, hunsigned⟩⟩
  · cases hsign
    exact ⟨⟨c, rest', rfl, .inr hdigit⟩, hunsigned⟩

/-! ## Putting a numeral together -/

/-- What stands behind the last digit of a number, and the power of ten that it tells. -/
inductive Scale : List Char → Option Int → Prop
  | nothing : Scale [] none
  | exponent {cs : List Char} {e : Int} (h : exponent? cs = some e) : Scale ('e' :: cs) (some e)

/-- Digits end where no digit follows. -/
theorem span_digits {ds rest : List Char} (hdigits : ∀ c ∈ ds, c.isDigit = true)
    (hrest : ∀ c ∈ rest.head?, c.isDigit = false) :
    (ds ++ rest).takeWhile Char.isDigit = ds ∧ (ds ++ rest).dropWhile Char.isDigit = rest := by
  rw [List.takeWhile_append_of_pos hdigits, List.dropWhile_append_of_pos hdigits]
  cases rest with
  | nil => exact ⟨List.append_nil ds, rfl⟩
  | cons c rest =>
    have hc : ¬ c.isDigit = true := ne_true_of_eq_false (hrest c rfl)
    rw [List.takeWhile_cons_of_neg hc, List.dropWhile_cons_of_neg hc, List.append_nil]
    exact ⟨rfl, rfl⟩

/-- A scale does not begin with a digit, so the digits before it end there. -/
theorem Scale.head_not_digit {exponent : Option Int} (h : Scale cs exponent) :
    ∀ c ∈ cs.head?, c.isDigit = false := by
  intro c hc
  cases h with
  | nothing => cases hc
  | exponent =>
    cases hc
    rfl

theorem Scale.fraction?_eq {exponent : Option Int} (h : Scale cs exponent) :
    fraction? cs = some (none, cs) := by
  cases h <;> rfl

/-- At least one digit has to stand behind a point. -/
theorem fraction?_point {ds rest : List Char} (hdigits : ∀ c ∈ ds, c.isDigit = true) (hne : ds ≠ [])
    (hrest : ∀ c ∈ rest.head?, c.isDigit = false) :
    fraction? ('.' :: (ds ++ rest)) = some (some ds, rest) := by
  obtain ⟨htake, hdrop⟩ := span_digits hdigits hrest
  have hsome : ¬ ds.isEmpty = true := by
    rw [List.isEmpty_iff]
    exact hne
  rw [fraction?, htake, hdrop]
  exact if_neg hsome

/-- A numeral is put together from its parts, with or without a minus in front. -/
theorem ofChars?_parts (negative : Bool) {whole scale : List Char} {fraction : Option (List Char)}
    {exponent : Option Int} (hwhole : Whole whole) (hcs : ∀ c ∈ cs.head?, c.isDigit = false)
    (hfraction : fraction? cs = some (fraction, scale)) (hscale : Scale scale exponent) :
    ofChars? ((if negative then ['-'] else []) ++ (whole ++ cs)) =
      some { negative, whole, fraction, exponent } := by
  obtain ⟨htake, hdrop⟩ := span_digits hwhole.digits hcs
  have hempty : ¬ (whole.isEmpty = true ∨ whole.head? = some '0' ∧ 1 < whole.length) := by
    rw [List.isEmpty_iff, not_or]
    exact ⟨hwhole.ne_nil, hwhole.unpadded⟩
  unfold ofChars?
  split
  next sign unsigned hsign =>
  -- no digit is taken for a minus
  have hsplit : sign = negative ∧ unsigned = whole ++ cs := by
    cases negative with
    | true =>
      cases hsign
      exact ⟨rfl, rfl⟩
    | false =>
      split at hsign
      · next rest h =>
        obtain ⟨first, digits, rfl⟩ := List.exists_cons_of_ne_nil hwhole.ne_nil
        have hminus : first = '-' := (List.cons.inj h).1
        subst hminus
        exact absurd (hwhole.digits '-' (List.mem_cons_self ..)) (by decide)
      · cases hsign
        exact ⟨rfl, rfl⟩
  obtain ⟨rfl, rfl⟩ := hsplit
  rw [htake, hdrop]
  simp only [if_neg hempty, hfraction, Option.bind_eq_bind, Option.bind_some, Option.pure_def]
  cases hscale with
  | nothing => rfl
  | exponent he => simp [he]

/-- The characters are a numeral, with or without a minus in front. -/
def Magnitude (cs : List Char) : Prop :=
  ∀ negative : Bool, ∃ n, ofChars? ((if negative then ['-'] else []) ++ cs) = some n

/-- Whole digits with a scale are a magnitude. -/
theorem Magnitude.whole {whole scale : List Char} {exponent : Option Int} (hwhole : Whole whole)
    (hscale : Scale scale exponent) : Magnitude (whole ++ scale) :=
  fun negative =>
    ⟨_, ofChars?_parts negative hwhole hscale.head_not_digit hscale.fraction?_eq hscale⟩

/-- So are whole digits, a point, digits and a scale. -/
theorem Magnitude.point {whole ds scale : List Char} {exponent : Option Int} (hwhole : Whole whole)
    (hdigits : ∀ c ∈ ds, c.isDigit = true) (hne : ds ≠ []) (hscale : Scale scale exponent) :
    Magnitude (whole ++ '.' :: (ds ++ scale)) := by
  have hpoint : ∀ c ∈ ('.' :: (ds ++ scale)).head?, c.isDigit = false := by
    rintro c ⟨⟩
    rfl
  exact fun negative => ⟨_, ofChars?_parts negative hwhole hpoint
    (fraction?_point hdigits hne hscale.head_not_digit) hscale⟩

/-! ## Integers -/

/-- What is written for an integer: its digits, behind a minus if it is negative. -/
theorem toList_toString (n : Int) :
    (toString n).toList = (if decide (n < 0) then ['-'] else []) ++ Nat.toDigits 10 n.natAbs := by
  cases n with
  | ofNat k =>
    have hsign : decide (Int.ofNat k < 0) = false :=
      decide_eq_false (Int.not_lt.2 (Int.natCast_nonneg k))
    rw [hsign]
    simp [Int.repr]
  | negSucc k =>
    have hsign : decide (Int.negSucc k < 0) = true := decide_eq_true (Int.negSucc_lt_zero k)
    rw [hsign]
    simp [Int.repr]

/-- What is written for an integer is a numeral, however great it is. -/
theorem ofChars?_toString (n : Int) : ofChars? (toString n).toList =
    some ⟨decide (n < 0), Nat.toDigits 10 n.natAbs, none, none⟩ := by
  have hnothing : ∀ c ∈ ([] : List Char).head?, c.isDigit = false := by simp
  have hparts := ofChars?_parts (decide (n < 0)) (.toDigits n.natAbs) hnothing rfl .nothing
  rw [List.append_nil] at hparts
  rw [toList_toString, hparts]

end Numeral

/-- The text is a numeral from its first character to its last, and stands for a source. -/
def Spells (text : String) (s : Source) : Prop :=
  ∃ n, Numeral.ofChars? text.toList = some n ∧ Source.ofNumeral n = s

/-- What a text stands for if it is a numeral. -/
def Source.ofSpelling (text : String) : Source :=
  ((Numeral.ofChars? text.toList).map ofNumeral).getD .invalid

/-- A text spells one number at most. -/
theorem Spells.ofSpelling_eq {text : String} {s : Source} (h : Spells text s) :
    Source.ofSpelling text = s := by
  obtain ⟨n, hn, rfl⟩ := h
  rw [Source.ofSpelling, hn]
  rfl

theorem Spells.ofSpelling {text : String} {s : Source} (h : Spells text s) :
    Spells text (.ofSpelling text) := by
  rw [h.ofSpelling_eq]
  exact h

/-- What is written for an integer stands for something, if not for the integer itself. -/
theorem exists_spells_toString (n : Int) : ∃ s, Spells (toString n) s :=
  ⟨_, _, Numeral.ofChars?_toString n, rfl⟩

/-- What is written for an integer of 64 bits stands for it. -/
theorem Spells.int {n : Int} (hlow : Int64.minValue.toInt ≤ n) (hhigh : n ≤ Word.greatest) :
    Spells (toString n) (.int n) := by
  refine ⟨_, Numeral.ofChars?_toString n, ?_⟩
  · have hint : Numeral.int? ⟨n < 0, Nat.toDigits 10 n.natAbs, none, none⟩ = some n := by
      unfold Numeral.int?
      simp only [Option.isSome_none, Bool.false_eq_true, or_self, if_false,
        Numeral.digitsValue_toDigits, decide_eq_true_eq]
      split
      · next hneg => rw [if_neg (by omega), show -(n.natAbs : Int) = n by omega]
      · next hneg => rw [if_pos (by omega), show (n.natAbs : Int) = n by omega]
    unfold Source.ofNumeral
    rw [hint]

end Provision.Json
