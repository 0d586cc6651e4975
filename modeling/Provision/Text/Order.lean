/-!
# The order of texts

Texts stand in the order of their code points: where two texts first differ the smaller character
decides, and a text stands before all that it begins. `Text.Before` is a strict total order
(`Before.irrefl`, `Before.trans`, `before_or_before`), which is all that a list by ascending key
asks of it.
-/

namespace Provision.Text

/-- Whether a list of characters stands before another. -/
def precedes : List Char → List Char → Bool
  | _, [] => false
  | [], _ :: _ => true
  | a :: as, b :: bs => a.toNat < b.toNat || (a == b && precedes as bs)

theorem precedes_self (l : List Char) : precedes l l = false := by
  induction l with
  | nil => rfl
  | cons a as ih => simp [precedes, ih]

/-- The order of characters carries over from the first place in which texts differ. -/
theorem precedes_trans {l m n : List Char} (h : precedes l m = true) (h' : precedes m n = true) :
    precedes l n = true := by
  induction m generalizing l n with
  | nil => simp [precedes] at h
  | cons b bs ih =>
    match l, n with
    | [], [] => simp [precedes] at h'
    | [], _ :: _ => rfl
    | _ :: _, [] => simp [precedes] at h'
    | a :: as, c :: cs =>
      simp only [precedes, Bool.or_eq_true, decide_eq_true_eq, Bool.and_eq_true,
        beq_iff_eq] at h h' ⊢
      rcases h with h | ⟨rfl, h⟩
      · rcases h' with h' | ⟨rfl, -⟩
        · exact .inl (Nat.lt_trans h h')
        · exact .inl h
      · rcases h' with h' | ⟨rfl, h'⟩
        · exact .inl h'
        · exact .inr ⟨rfl, ih h h'⟩

theorem precedes_or_precedes {l m : List Char} (h : l ≠ m) :
    precedes l m = true ∨ precedes m l = true := by
  induction l generalizing m with
  | nil =>
    cases m with
    | nil => exact absurd rfl h
    | cons => exact .inl rfl
  | cons a as ih =>
    cases m with
    | nil => exact .inr rfl
    | cons b bs =>
      simp only [precedes, Bool.or_eq_true, decide_eq_true_eq, Bool.and_eq_true, beq_iff_eq]
      rcases Nat.lt_trichotomy a.toNat b.toNat with hlt | heq | hgt
      · exact .inl (.inl hlt)
      · have hab : a = b := Char.toNat_inj.1 heq
        subst hab
        have hne : as ≠ bs := fun e => h (e ▸ rfl)
        rcases ih hne with h' | h'
        · exact .inl (.inr ⟨rfl, h'⟩)
        · exact .inr (.inr ⟨rfl, h'⟩)
      · exact .inr (.inl hgt)

/-- What two lists begin with does not matter. -/
theorem precedes_append (p l m : List Char) : precedes (p ++ l) (p ++ m) = precedes l m := by
  induction p with
  | nil => rfl
  | cons c p ih => simp [precedes, ih]

/-- Whether a text stands before another. -/
def Before (s t : String) : Prop := precedes s.toList t.toList = true

instance : DecidableRel Before :=
  fun s t => inferInstanceAs (Decidable (precedes s.toList t.toList = true))

theorem Before.irrefl (s : String) : ¬ Before s s := by
  simp [Before, precedes_self]

theorem Before.trans {s t u : String} (h : Before s t) (h' : Before t u) : Before s u :=
  precedes_trans h h'

theorem before_append_iff {p s t : String} : Before (p ++ s) (p ++ t) ↔ Before s t := by
  unfold Before
  rw [String.toList_append, String.toList_append, precedes_append]

theorem before_or_before {s t : String} (h : s ≠ t) : Before s t ∨ Before t s :=
  precedes_or_precedes fun e => h (String.toList_inj.1 e)

end Provision.Text
