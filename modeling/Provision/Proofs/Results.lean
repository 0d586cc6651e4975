import Mathlib.Data.List.Forall2

/-!
# Results

A step that can fail gives an error or a result, and what is made of several steps succeeds exactly
if each of them does. `mapM` over a list stops at the first step that fails; if none does, the
results are those of the single steps, in their order.

Two steps agree up to a relation (`AgreeUpTo`) if they fail with one error, or if both succeed and
their results are related. What is made of steps that agree agrees as well (`AgreeUpTo.bind`,
`AgreeUpTo.mapM`).
-/

namespace Provision

variable {α β ε : Type} {f : α → Except ε β} {l : List α} {ys : List β}

theorem exists_eq_ok_of_isOk {r : Except ε α} (h : r.isOk = true) : ∃ a, r = .ok a := by
  cases r with
  | error e => cases h
  | ok a => exact ⟨a, rfl⟩

theorem ok_bind (a : α) : (Except.ok a >>= f) = f a := rfl

theorem error_bind (e : ε) : ((Except.error e : Except ε α) >>= f) = .error e := rfl

/-- Two steps in a row succeed if the first one does and the second one does with its result. -/
theorem bind_eq_ok_iff {r : Except ε α} {y : β} :
    (r >>= f) = .ok y ↔ ∃ x, r = .ok x ∧ f x = .ok y := by
  cases r with
  | error e =>
    constructor
    · intro h
      cases h
    · intro h
      obtain ⟨x, hx, -⟩ := h
      cases hx
  | ok x =>
    constructor
    · intro h
      exact ⟨x, rfl, h⟩
    · intro h
      obtain ⟨x', hx', h⟩ := h
      cases hx'
      exact h

theorem map_eq_ok_iff {r : Except ε α} {g : α → β} {y : β} :
    r.map g = .ok y ↔ ∃ x, r = .ok x ∧ g x = y := by
  cases r with
  | error e => simp [Except.map]
  | ok x => simp [Except.map]

/-- A step on each item of a list succeeds if there is a result for each item. -/
theorem mapM_eq_ok_iff [Inhabited β] :
    l.mapM f = .ok ys ↔ ∃ g : α → β, (∀ x ∈ l, f x = .ok (g x)) ∧ ys = l.map g := by
  constructor
  · intro h
    refine ⟨fun x => (f x).toOption.getD default, ?_⟩
    induction l generalizing ys with
    | nil =>
      cases h
      exact ⟨by simp, rfl⟩
    | cons x l ih =>
      rw [List.mapM_cons, bind_eq_ok_iff] at h
      obtain ⟨y, hx, h⟩ := h
      obtain ⟨zs, hl, hys⟩ := bind_eq_ok_iff.1 h
      cases hys
      obtain ⟨hall, hzs⟩ := ih hl
      refine ⟨?_, ?_⟩
      · intro x' hx'
        rcases List.mem_cons.1 hx' with rfl | hx'
        · simp [hx, Except.toOption]
        · exact hall x' hx'
      · rw [List.map_cons, hx, ← hzs]
        rfl
  · intro h
    obtain ⟨g, hall, rfl⟩ := h
    induction l with
    | nil => rfl
    | cons x l ih =>
      rw [List.mapM_cons, hall x (List.mem_cons_self ..),
        ih fun x' hx' => hall x' (List.mem_cons_of_mem _ hx')]
      rfl

/-- A check of several things succeeds if it succeeds on each. -/
theorem forM_eq_ok_iff {check : α → Except ε Unit} :
    l.forM check = .ok () ↔ ∀ x ∈ l, check x = .ok () := by
  induction l with
  | nil => simp [List.forM, pure, Except.pure]
  | cons x l ih =>
    have hcons : (x :: l).forM check = (check x >>= fun _ => l.forM check) := rfl
    rw [hcons, List.forall_mem_cons, ← ih, bind_eq_ok_iff]
    exact ⟨fun ⟨_, hx, hl⟩ => ⟨hx, hl⟩, fun ⟨hx, hl⟩ => ⟨(), hx, hl⟩⟩

/-- If a check of several things fails, it fails on one of them. -/
theorem exists_of_forM_eq_error {check : α → Except ε Unit} {e : ε} (h : l.forM check = .error e) :
    ∃ x ∈ l, check x = .error e := by
  induction l with
  | nil => cases h
  | cons x l ih =>
    have hcons : (x :: l).forM check = (check x >>= fun _ => l.forM check) := rfl
    rw [hcons] at h
    cases hx : check x with
    | error e' =>
      rw [hx] at h
      cases h
      exact ⟨x, List.mem_cons_self .., hx⟩
    | ok _ =>
      rw [hx] at h
      obtain ⟨y, hy, he⟩ := ih h
      exact ⟨y, List.mem_cons_of_mem _ hy, he⟩

theorem mem_iff_of_mapM_eq_ok (h : l.mapM f = .ok ys) {y : β} : y ∈ ys ↔ ∃ x ∈ l, f x = .ok y := by
  have : Inhabited β := ⟨y⟩
  obtain ⟨g, hg, rfl⟩ := mapM_eq_ok_iff.1 h
  rw [List.mem_map]
  constructor
  · intro h
    obtain ⟨x, hx, rfl⟩ := h
    exact ⟨x, hx, hg x hx⟩
  · intro h
    obtain ⟨x, hx, hy⟩ := h
    rw [hg x hx] at hy
    exact ⟨x, hx, Except.ok.inj hy⟩

/-- If one of several steps fails, the first that does gives the error. -/
theorem exists_of_mapM_eq_error {e : ε} (h : l.mapM f = .error e) : ∃ x ∈ l, f x = .error e := by
  induction l with
  | nil => cases h
  | cons x l ih =>
    rw [List.mapM_cons] at h
    cases hx : f x with
    | error e' =>
      rw [hx] at h
      cases h
      exact ⟨x, List.mem_cons_self .., hx⟩
    | ok y =>
      rw [hx, ok_bind] at h
      cases hl : l.mapM f with
      | error e' =>
        rw [hl] at h
        cases h
        obtain ⟨z, hz, he⟩ := ih hl
        exact ⟨z, List.mem_cons_of_mem _ hz, he⟩
      | ok ys =>
        rw [hl] at h
        cases h

/-- Only what is done with the elements of the list counts, also for the error. -/
theorem mapM_congr_of_mem {m : Type → Type} [Monad m] [LawfulMonad m] {f g : α → m β}
    (h : ∀ x ∈ l, f x = g x) : l.mapM f = l.mapM g := by
  induction l with
  | nil => rfl
  | cons x l ih =>
    obtain ⟨hx, hl⟩ := List.forall_mem_cons.1 h
    rw [List.mapM_cons, List.mapM_cons, hx, ih hl]

/-- What is done with each result can be done with all of them at the end. -/
theorem mapM_map {γ : Type} {g : β → γ} :
    (l.mapM fun x => (f x).map g) = (l.mapM f).map (List.map g) := by
  induction l with
  | nil => rfl
  | cons x l ih =>
    rw [List.mapM_cons, List.mapM_cons, ih]
    cases f x with
    | error e => rfl
    | ok y => cases l.mapM f <;> rfl

theorem mapM_eq_ok_iff_forall₂ :
    l.mapM f = .ok ys ↔ List.Forall₂ (fun x y => f x = .ok y) l ys := by
  induction l generalizing ys with
  | nil =>
    rw [List.forall₂_nil_left_iff]
    constructor
    · intro h
      cases h
      rfl
    · intro h
      rw [h]
      rfl
  | cons x l ih =>
    rw [List.mapM_cons, bind_eq_ok_iff]
    constructor
    · intro h
      obtain ⟨y, hx, h⟩ := h
      obtain ⟨zs, hl, hys⟩ := bind_eq_ok_iff.1 h
      cases hys
      exact .cons hx (ih.1 hl)
    · intro h
      cases h with
      | cons hx hl => exact ⟨_, hx, bind_eq_ok_iff.2 ⟨_, ih.2 hl, rfl⟩⟩

/-- Steps that succeed throughout give the list of their results. -/
theorem mapM_map_eq_ok {γ : Type} {l : List γ} {g : γ → α} {h : γ → β}
    (hall : ∀ x ∈ l, f (g x) = .ok (h x)) :
    (l.map g).mapM f = .ok (l.map h) := by
  rw [mapM_eq_ok_iff_forall₂, List.forall₂_map_left_iff, List.forall₂_map_right_iff,
    List.forall₂_same]
  exact hall

/-- If each item has a result that is related to it, so has the list. -/
theorem exists_mapM_eq_ok {R : α → β → Prop} (h : ∀ x ∈ l, ∃ y, f x = .ok y ∧ R x y) :
    ∃ ys, l.mapM f = .ok ys ∧ List.Forall₂ R l ys := by
  induction l with
  | nil => exact ⟨[], rfl, .nil⟩
  | cons x l ih =>
    obtain ⟨hx, hl⟩ := List.forall_mem_cons.1 h
    obtain ⟨y, hy, hR⟩ := hx
    obtain ⟨ys, hys, hRs⟩ := ih hl
    refine ⟨y :: ys, ?_, .cons hR hRs⟩
    rw [List.mapM_cons, hy, hys]
    rfl

/-- Steps that can come to nothing give the list of their results if none does. -/
theorem mapM_eq_some_iff_forall₂ {f : α → Option β} :
    l.mapM f = some ys ↔ List.Forall₂ (fun x y => f x = some y) l ys := by
  induction l generalizing ys with
  | nil =>
    rw [List.forall₂_nil_left_iff]
    exact Option.some_inj.trans eq_comm
  | cons x l ih =>
    rw [List.mapM_cons, List.forall₂_cons_left_iff]
    simp only [Option.bind_eq_bind, Option.bind_eq_some_iff, Option.pure_def, Option.some_inj, ih]
    constructor
    · intro h
      obtain ⟨y, hx, zs, hl, hys⟩ := h
      exact ⟨y, zs, hx, hl, hys.symm⟩
    · intro h
      obtain ⟨y, zs, hx, hl, hys⟩ := h
      exact ⟨y, hx, zs, hl, hys.symm⟩

/-- Steps come to nothing exactly if one of them does. -/
theorem mapM_eq_none_iff {f : α → Option β} : l.mapM f = none ↔ ∃ x ∈ l, f x = none := by
  induction l with
  | nil => simp
  | cons x l ih =>
    rw [List.mapM_cons, List.exists_mem_cons_iff, ← ih]
    cases f x with
    | none => simp
    | some y => cases l.mapM f <;> simp

/-- Of a filtered list, what comes after one result comes from what comes after its source. -/
theorem exists_filterMap_split_iff {f : α → Option β} {y : β} {P : β → Prop} :
    (∃ before after, l.filterMap f = before ++ y :: after ∧ ∀ z ∈ after, P z) ↔
      ∃ before x after, l = before ++ x :: after ∧ f x = some y ∧ ∀ x' ∈ after, ∀ z, f x' = some z →
        P z := by
  constructor
  · intro h
    obtain ⟨before, after, hsplit, hafter⟩ := h
    obtain ⟨l₁, l₂, rfl, -, hrest⟩ := List.filterMap_eq_append_iff.1 hsplit
    obtain ⟨skipped, x, l₃, rfl, -, hx, rfl⟩ := List.filterMap_eq_cons_iff.1 hrest
    refine ⟨l₁ ++ skipped, x, l₃, (List.append_assoc ..).symm, hx, fun x' hx' z hz => ?_⟩
    exact hafter z (List.mem_filterMap.2 ⟨x', hx', hz⟩)
  · intro h
    obtain ⟨before, x, after, rfl, hx, hafter⟩ := h
    refine ⟨before.filterMap f, after.filterMap f, ?_, fun z hz => ?_⟩
    · rw [List.filterMap_append, List.filterMap_cons_some hx]
    · obtain ⟨x', hx', hz⟩ := List.mem_filterMap.1 hz
      exact hafter x' hx' z hz

/-- What related elements have in common holds throughout if it holds of the first ones. -/
theorem forall₂_iff_forall_mem {R S : α → β → Prop} {Q : α → Prop} (h : List.Forall₂ R l ys)
    (hiff : ∀ x y, R x y → (S x y ↔ Q x)) : List.Forall₂ S l ys ↔ ∀ x ∈ l, Q x := by
  induction h with
  | nil => simp
  | cons hxy _ ih => rw [List.forall₂_cons, List.forall_mem_cons, ih, hiff _ _ hxy]

theorem forall_mem_iff_of_forall₂ {R : α → β → Prop} {P : β → Prop} {Q : α → Prop}
    (h : List.Forall₂ R l ys) (hiff : ∀ x y, R x y → (P y ↔ Q x)) :
    (∀ y ∈ ys, P y) ↔ ∀ x ∈ l, Q x := by
  induction h with
  | nil => simp
  | cons hxy _ ih => rw [List.forall_mem_cons, List.forall_mem_cons, ih, hiff _ _ hxy]

/-! ## Two results -/

/-- Two results are one error, or both are there and are related. -/
def AgreeUpTo (R : α → β → Prop) (r : Except ε α) (r' : Except ε β) : Prop :=
  (∃ e, r = .error e ∧ r' = .error e) ∨ ∃ a b, r = .ok a ∧ r' = .ok b ∧ R a b

namespace AgreeUpTo

variable {γ δ : Type} {R : α → β → Prop} {S : γ → δ → Prop} {r : Except ε α} {r' : Except ε β}

theorem ok {a : α} {b : β} (h : R a b) : AgreeUpTo R (.ok a : Except ε α) (.ok b) :=
  .inr ⟨a, b, rfl, rfl, h⟩

theorem error (e : ε) : AgreeUpTo R (.error e : Except ε α) (.error e) := .inl ⟨e, rfl, rfl⟩

/-- Results that agree are carried on by steps that keep them agreeing. -/
theorem bind {f : α → Except ε γ} {g : β → Except ε δ} (h : AgreeUpTo R r r')
    (hfg : ∀ a b, R a b → AgreeUpTo S (f a) (g b)) : AgreeUpTo S (r >>= f) (r' >>= g) := by
  rcases h with ⟨e, rfl, rfl⟩ | ⟨a, b, rfl, rfl, hab⟩
  · exact error e
  · exact hfg a b hab

theorem mono {T : α → β → Prop} (h : AgreeUpTo R r r') (hRT : ∀ a b, R a b → T a b) :
    AgreeUpTo T r r' := by
  rcases h with ⟨e, rfl, rfl⟩ | ⟨a, b, rfl, rfl, hab⟩
  · exact error e
  · exact ok (hRT a b hab)

theorem map {f : α → γ} {g : β → δ} (h : AgreeUpTo R r r') (hfg : ∀ a b, R a b → S (f a) (g b)) :
    AgreeUpTo S (r.map f) (r'.map g) := by
  rcases h with ⟨e, rfl, rfl⟩ | ⟨a, b, rfl, rfl, hab⟩
  · exact error e
  · exact ok (hfg a b hab)

/-- The first step that fails is the same on both sides. -/
theorem mapM {φ : α → β} {f : α → Except ε γ} {g : β → Except ε δ}
    (h : ∀ x ∈ l, AgreeUpTo S (f x) (g (φ x))) :
    AgreeUpTo (List.Forall₂ S) (l.mapM f) ((l.map φ).mapM g) := by
  induction l with
  | nil => exact ok .nil
  | cons x l ih =>
    obtain ⟨hx, hl⟩ := List.forall_mem_cons.1 h
    rw [List.map_cons, List.mapM_cons, List.mapM_cons]
    exact hx.bind fun c d hcd => (ih hl).bind fun cs ds hcds => ok (.cons hcd hcds)

end AgreeUpTo

end Provision
