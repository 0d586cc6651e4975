import Provision.Number.Layout
import Provision.Proofs.Json.Numeral

/-!
# Number texts are numerals

What is written for a number is a numeral, whichever number it is
(`Binary64.exists_spells_toJsonText`). Both layouts put digits, a point and an exponent together as
the grammar wants them, except that the positional one could begin with a zero too many. It does
not, because the decimal of a number has the digit zero only for zero itself: no decimal zero reads
back as any other number (`Binary64.digits_ne_zero_of_readsBack`).
-/

namespace Provision

open Json.Numeral

namespace Decimal

variable {d : Decimal}

/-! ## Layouts -/

theorem isDigit_of_mem_digitChars {c : Char} (h : c ∈ d.digitChars) : c.isDigit = true :=
  isDigit_of_mem_toDigits h

theorem whole_digitChars (d : Decimal) : Whole d.digitChars := .toDigits d.digits

theorem isDigit_of_mem_replicate {n : Nat} {c : Char} (h : c ∈ List.replicate n '0') :
    c.isDigit = true := by
  rw [(List.mem_replicate.1 h).2]
  rfl

/-- Zeros may be put behind the digits of a number that is not zero. -/
theorem whole_digitChars_append (h : d.digits = 0 → d.exp = 0) :
    Whole (d.digitChars ++ List.replicate d.exp.toNat '0') := by
  by_cases hzero : d.digits = 0
  · rw [h hzero]
    simpa using whole_digitChars d
  · refine ⟨List.forall_mem_append.2
      ⟨fun _ => isDigit_of_mem_digitChars, fun _ => isDigit_of_mem_replicate⟩,
      List.append_ne_nil_of_left_ne_nil (whole_digitChars d).ne_nil _, ?_⟩
    rintro ⟨hhead, -⟩
    rw [List.head?_append_of_ne_nil _ (whole_digitChars d).ne_nil] at hhead
    exact head?_toDigits_ne (Nat.pos_of_ne_zero hzero) hhead

/-- What is left of several digits has no zero too many. -/
theorem whole_take_digitChars {n : Nat} (hpos : 0 < n) (hlt : n < d.digitChars.length) :
    Whole (d.digitChars.take n) := by
  have hwhole := whole_digitChars d
  refine ⟨fun c hc => isDigit_of_mem_digitChars (List.mem_of_mem_take hc), ?_, ?_⟩
  · intro hnil
    rcases List.take_eq_nil_iff.1 hnil with hn | hdigits
    · omega
    · exact hwhole.ne_nil hdigits
  · rintro ⟨hhead, -⟩
    rw [List.head?_take, if_neg (by omega)] at hhead
    exact hwhole.unpadded ⟨hhead, by omega⟩

/-- The positional layout is a numeral, unless zeros are put behind a zero. -/
theorem magnitude_positional (h : d.digits = 0 → d.exp = 0) :
    Magnitude (d.positional ['.', '0']) := by
  have hdigits : ∀ c ∈ d.digitChars, c.isDigit = true := fun _ => isDigit_of_mem_digitChars
  unfold positional
  dsimp only
  split
  · exact .point (whole_digitChars_append h) (List.forall_mem_singleton.2 rfl)
      (List.cons_ne_nil _ _) .nothing
  next hexp =>
  split
  · next hplaces =>
    have hwhole : Whole (d.digitChars.take (d.digitChars.length - (-d.exp).toNat)) :=
      whole_take_digitChars (by omega) (by omega)
    have hrest : d.digitChars.drop (d.digitChars.length - (-d.exp).toNat) ≠ [] := by
      rw [Ne, List.drop_eq_nil_iff]
      omega
    have hpoint :=
      Magnitude.point hwhole (fun c hc => hdigits c (List.mem_of_mem_drop hc)) hrest .nothing
    rw [List.append_nil] at hpoint
    exact hpoint
  · have hpoint := Magnitude.point (.singleton (rfl : '0'.isDigit = true))
      (List.forall_mem_append.2 ⟨fun _ => isDigit_of_mem_replicate, hdigits⟩)
      (List.append_ne_nil_of_right_ne_nil
        (List.replicate ((-d.exp).toNat - d.digitChars.length) '0')
        (whole_digitChars d).ne_nil) .nothing
    rw [List.append_nil] at hpoint
    exact hpoint

/-- The layout with an exponent is a numeral. -/
theorem magnitude_scientific (d : Decimal) : Magnitude d.scientific := by
  have hdigits : ∀ c ∈ d.digitChars, c.isDigit = true := fun _ => isDigit_of_mem_digitChars
  have hunsigned : exponent?.unsigned? (Nat.toDigits 10 d.leading.natAbs) =
      some d.leading.natAbs := by
    unfold exponent?.unsigned?
    rw [if_pos ⟨Nat.toDigits_ne_nil, List.all_eq_true.2 fun _ => isDigit_of_mem_toDigits⟩,
      digitsValue_toDigits]
  have hexponent : ∃ e, exponent?
      ((if d.leading < 0 then '-' else '+') :: Nat.toDigits 10 d.leading.natAbs)
      = some e := by
    split <;> simp [exponent?, hunsigned]
  obtain ⟨e, he⟩ := hexponent
  unfold scientific
  dsimp only
  split
  · next hnil => exact absurd hnil (whole_digitChars d).ne_nil
  · next c hc =>
      exact .whole (.singleton (hdigits c (by rw [hc]; exact List.mem_singleton_self c)))
        (.exponent he)
  · next c cs hne hc =>
    rw [hc] at hdigits
    obtain ⟨hfirst, hrest⟩ := List.forall_mem_cons.1 hdigits
    exact .point (.singleton hfirst) hrest (fun hnil => hne (by rw [hnil])) (.exponent he)

/-! ## Shortest decimals -/

theorem digits_trimZeros_ne_zero (h : d.digits ≠ 0) : d.trimZeros.digits ≠ 0 := by
  fun_induction trimZeros d with
  | case1 d htrim ih => exact ih (by dsimp only; omega)
  | case2 d htrim => exact h

/-- Zero lies below everything positive. -/
theorem compareBinary_zero {n : Nat} (h : 0 < n) (i j : Int) : compareBinary 0 i n j = .lt := by
  unfold compareBinary
  rw [Nat.zero_mul, Nat.zero_mul, Nat.compare_eq_lt]
  exact Nat.mul_pos (Nat.mul_pos h (Nat.pow_pos (by decide))) (Nat.pow_pos (by decide))

end Decimal

namespace Binary64

variable {x : Binary64} {d : Decimal}

/-- A zero does not read back as a number that is not zero: the interval of that number begins above
zero. -/
theorem digits_ne_zero_of_readsBack (hx : x.mantissa ≠ 0) (h : x.readsBack d = true) :
    d.digits ≠ 0 := by
  intro hzero
  unfold readsBack at h
  have hlo : 0 < (if x.narrowBelow then 4 * x.mantissa - 1 else 4 * x.mantissa - 2) := by
    split <;> omega
  rw [hzero] at h
  simp [Decimal.compareBinary_zero hlo] at h

/-- A number that is not zero has a digit on every grid from which it reads back. -/
theorem digits_ne_zero_of_onGrid? {tie : Tie} {k : Int} (hx : x.mantissa ≠ 0)
    (h : x.onGrid? tie k = some d) :
    d.digits ≠ 0 := by
  have hlow : x.readsBack ⟨x.floorScaled k, k⟩ = true → x.floorScaled k ≠ 0 :=
    digits_ne_zero_of_readsBack hx
  unfold onGrid? at h
  dsimp only at h
  split at h
  · next hboth =>
    have hne := hlow (Bool.and_eq_true_iff.1 hboth).1
    split at h <;> cases h
    all_goals (dsimp only; try split) <;> omega
  split at h
  · next hok =>
    cases h
    exact hlow hok
  split at h
  · cases h
    exact Nat.succ_ne_zero _
  · cases h

/-- Only the decimal of zero has the digit zero. -/
theorem digits_shortest_ne_zero {tie : Tie} (hx : x.mantissa ≠ 0) :
    (x.shortest tie).digits ≠ 0 := by
  have hzero : ¬ x.isZero = true := by simpa [isZero] using hx
  unfold shortest
  rw [if_neg hzero]
  apply Decimal.digits_trimZeros_ne_zero
  cases hhit : (List.range 17).findSome? fun n =>
    x.onGrid? tie (x.decimalOrder - (n + 1 : Nat)) with
  | none =>
    rw [Option.getD_none, exactDecimal]
    exact Nat.mul_ne_zero (Nat.mul_ne_zero hx (Nat.ne_of_gt (Nat.pow_pos (by decide))))
      (Nat.ne_of_gt (Nat.pow_pos (by decide)))
  | some d =>
    obtain ⟨n, -, hgrid⟩ := List.exists_of_findSome?_eq_some hhit
    exact digits_ne_zero_of_onGrid? hx hgrid

/-- What is written for a number is a numeral. -/
theorem exists_spells_toJsonText (x : Binary64) : ∃ s, Json.Spells x.toJsonText s := by
  have hmagnitude : Magnitude
      (if x.isZero || (-5 ≤ (x.shortest .toEven).leading && (x.shortest .toEven).leading < 16)
        then (x.shortest .toEven).positional ['.', '0']
        else (x.shortest .toEven).scientific) := by
    split
    · refine Decimal.magnitude_positional fun hdigits => ?_
      by_cases hx : x.mantissa = 0
      · have hzero : x.isZero = true := by simpa [isZero] using hx
        rw [shortest, if_pos hzero]
      · exact absurd hdigits (digits_shortest_ne_zero hx)
    · exact Decimal.magnitude_scientific _
  obtain ⟨n, hn⟩ := hmagnitude x.isNegative
  refine ⟨_, n, ?_, rfl⟩
  rw [← hn, toJsonText, withSign, String.toList_ofList]
  cases x.isNegative <;> rfl

end Binary64

end Provision
