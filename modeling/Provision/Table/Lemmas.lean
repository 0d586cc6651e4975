import Provision.Table.Basic

/-!
# Lemmas about tables

Every operation is described through `get?`. Two tables with the same look-ups are equal
(`Table.ext_get?`), so that an equation between tables can be proved key by key.
-/

namespace Provision.Table

variable {α β : Type} {t u : Table α} {k k' : String} {v : α}

/-- Looking a key up finds its entry. -/
theorem get?_eq_some_iff : t.get? k = some v ↔ (k, v) ∈ t.entries := by
  obtain ⟨l, hl⟩ := t
  simp only [get?, Option.map_eq_some_iff]
  constructor
  · rintro ⟨⟨a, b⟩, hf, rfl⟩
    have hk := List.find?_some hf
    have hm := List.mem_of_find?_eq_some hf
    simp only [beq_iff_eq] at hk
    subst hk
    exact hm
  · intro hm
    refine ⟨(k, v), ?_, rfl⟩
    induction l with
    | nil => simp at hm
    | cons p rest ih =>
      obtain ⟨hhead, htail⟩ := List.pairwise_cons.1 hl
      rcases List.mem_cons.1 hm with rfl | hr
      · simp
      · have hlt := hhead _ hr
        have hne : p.1 ≠ k := fun e => Text.Before.irrefl k (e ▸ hlt)
        rw [List.find?_cons_of_neg (by simpa using hne)]
        exact ih htail hr

@[simp] theorem get?_empty : (empty : Table α).get? k = none := rfl

/-- Placing an entry replaces the one with its key and leaves the others. -/
theorem mem_place {l : List (String × α)} (hl : l.Pairwise (fun a b => Text.Before a.1 b.1))
    {e : String × α} : e ∈ place k v l ↔ e = (k, v) ∨ (e.1 ≠ k ∧ e ∈ l) := by
  induction l with
  | nil => simp [place]
  | cons p rest ih =>
    obtain ⟨k₁, v₁⟩ := p
    obtain ⟨hhead, htail⟩ := List.pairwise_cons.1 hl
    simp only [place]
    split
    · next hlt =>
      have hne : ∀ e ∈ (k₁, v₁) :: rest, e.1 ≠ k := by
        intro e he heq
        rcases List.mem_cons.1 he with rfl | hr
        · have hk : k₁ = k := heq
          exact Text.Before.irrefl k (hk ▸ hlt)
        · have hk : Text.Before k e.1 := hlt.trans (hhead e hr)
          exact Text.Before.irrefl k (heq ▸ hk)
      simp only [List.mem_cons (a := e) (b := (k, v))]
      constructor
      · rintro (h | h)
        · exact .inl h
        · exact .inr ⟨hne e h, h⟩
      · rintro (h | h)
        · exact .inl h
        · exact .inr h.2
    · split
      · next heq =>
        subst heq
        have hne : ∀ e ∈ rest, e.1 ≠ k := fun e he h =>
          Text.Before.irrefl k (h ▸ hhead e he)
        simp only [List.mem_cons]
        constructor
        · rintro (h | h)
          · exact .inl h
          · exact .inr ⟨hne e h, .inr h⟩
        · rintro (h | ⟨h, rfl | h'⟩)
          · exact .inl h
          · exact absurd rfl h
          · exact .inr h'
      · next hne =>
        simp only [List.mem_cons, ih htail]
        constructor
        · rintro (rfl | h | h)
          · exact .inr ⟨fun h => hne h.symm, .inl rfl⟩
          · exact .inl h
          · exact .inr ⟨h.1, .inr h.2⟩
        · rintro (h | ⟨h, h' | h'⟩)
          · exact .inr (.inl h)
          · exact .inl h'
          · exact .inr (.inr ⟨h, h'⟩)

theorem mem_insert {e : String × α} :
    e ∈ (t.insert k v).entries ↔ e = (k, v) ∨ (e.1 ≠ k ∧ e ∈ t.entries) :=
  mem_place t.sorted

@[simp] theorem get?_insert_self : (t.insert k v).get? k = some v :=
  get?_eq_some_iff.2 (mem_insert.2 (.inl rfl))

theorem get?_insert_of_ne (h : k' ≠ k) : (t.insert k v).get? k' = t.get? k' := by
  ext w
  rw [get?_eq_some_iff, get?_eq_some_iff, mem_insert]
  simp [h]

theorem get?_insert : (t.insert k v).get? k' = if k' = k then some v else t.get? k' := by
  split
  · next h => subst h; exact get?_insert_self
  · next h => exact get?_insert_of_ne h

theorem get?_filter {p : String → α → Bool} : (t.filter p).get? k = (t.get? k).filter (p k) := by
  ext w
  rw [get?_eq_some_iff, Option.filter_eq_some_iff, get?_eq_some_iff]
  simp [filter]

@[simp] theorem get?_erase_self : (t.erase k).get? k = none := by
  rw [erase, get?_filter]
  cases t.get? k <;> simp

theorem get?_erase_of_ne (h : k' ≠ k) : (t.erase k).get? k' = t.get? k' := by
  rw [erase, get?_filter]
  cases t.get? k' <;> simp [h]

theorem get?_map {f : α → β} : (t.map f).get? k = (t.get? k).map f := by
  simp [get?, map, List.find?_map, Function.comp_def]

/-- Tables are determined by their look-ups: a strictly ascending list is determined by its
members. -/
theorem ext_get? (h : ∀ k, t.get? k = u.get? k) : t = u := by
  have hmem : ∀ e, e ∈ t.entries ↔ e ∈ u.entries := by
    intro e
    rw [← get?_eq_some_iff (k := e.1) (v := e.2), h, get?_eq_some_iff]
  have key : ∀ l₁ l₂ : List (String × α), l₁.Pairwise (fun a b => Text.Before a.1 b.1) →
      l₂.Pairwise (fun a b => Text.Before a.1 b.1) → (∀ e, e ∈ l₁ ↔ e ∈ l₂) → l₁ = l₂ := by
    intro l₁
    induction l₁ with
    | nil =>
      intro l₂ _ _ hm
      cases l₂ with
      | nil => rfl
      | cons p _ => exact absurd ((hm p).2 (List.mem_cons_self ..)) (by simp)
    | cons p rest ih =>
      intro l₂ h₁ h₂ hm
      cases l₂ with
      | nil => exact absurd ((hm p).1 (List.mem_cons_self ..)) (by simp)
      | cons q rest' =>
        obtain ⟨hp, hr⟩ := List.pairwise_cons.1 h₁
        obtain ⟨hq, hr'⟩ := List.pairwise_cons.1 h₂
        -- both heads are least, so they coincide
        have hpq : p = q := by
          rcases List.mem_cons.1 ((hm p).1 (List.mem_cons_self ..)) with h | h
          · exact h
          · rcases List.mem_cons.1 ((hm q).2 (List.mem_cons_self ..)) with h' | h'
            · exact h'.symm
            · exact absurd ((hq p h).trans (hp q h')) (Text.Before.irrefl _)
        subst hpq
        refine congrArg (p :: ·) (ih rest' hr hr' fun e => ?_)
        have hne : ∀ {l : List (String × α)}, (∀ b ∈ l, Text.Before p.1 b.1) → e ∈ l → e ≠ p := by
          intro l hl he heq
          exact Text.Before.irrefl p.1 (by simpa [heq] using hl e he)
        constructor
        · intro he
          rcases List.mem_cons.1 ((hm e).1 (List.mem_cons_of_mem _ he)) with h | h
          · exact absurd h (hne hp he)
          · exact h
        · intro he
          rcases List.mem_cons.1 ((hm e).2 (List.mem_cons_of_mem _ he)) with h | h
          · exact absurd h (hne hq he)
          · exact h
  exact Table.ext (key _ _ t.sorted u.sorted hmem)

end Provision.Table
