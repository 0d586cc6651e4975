import Mathlib.Order.RelClasses
import Provision.Proofs.Document.Closed

/-!
# The order that edges ask for

A document has to come after those that it requires and before those that it is required in. Edges
of a map are `Satisfiable` if this relation has no cycle.

Following `require` edges alone comes to an end in every map that a conversion makes, unless it
comes to a document that requires itself. That is `Grounded`. It survives that a closed grounded map
is written over another one (`Grounded.union`): from a document of the upper map the edges never
lead out of it again. In a grounded map a cycle therefore needs a document that requires itself, or
edges of both kinds (`Grounded.satisfiable_iff`).
-/

namespace Provision

namespace DocumentMap

open Relation

variable {m n : DocumentMap} {t u v : String}

/-- The document at one tag requires the other, which has to come before it. -/
abbrev Requires : DocumentMap → String → String → Prop := Refers Document.requires

/-- The document at one tag is required in the other and has to come before it. -/
abbrev RequiredIn : DocumentMap → String → String → Prop := Refers Document.requiredBy

/-- The document at one tag has to come before the other, because one of them says so. -/
def Precedes (m : DocumentMap) (t u : String) : Prop := m.Requires u t ∨ m.RequiredIn t u

/-- No document has to come before itself. -/
def Satisfiable (m : DocumentMap) : Prop := ∀ t, ¬ TransGen m.Precedes t t

/-- A document is required in the other tag, and it is the one at the first tag or requires it, at
once or by way of other documents. -/
def Triggers (m : DocumentMap) (t u : String) : Prop :=
  ∃ v, ReflTransGen m.Requires v t ∧ m.RequiredIn v u

/-- One goes on to the first tag from the second, which requires it and not itself. -/
def Follows (m : DocumentMap) (u t : String) : Prop := m.Requires t u ∧ ¬ m.Requires t t

/-- Following `require` edges comes to an end, unless at a document that requires itself. -/
def Grounded (m : DocumentMap) : Prop := WellFounded m.Follows

theorem Closed.contains_of_requires (hm : m.Closed) (h : m.Requires t u) : m.contains u = true := by
  obtain ⟨d, hd, e, he, hu⟩ := h
  exact hm.contains_of_refers ⟨d, hd, e, Document.mem_edges.2 (.inl he), hu⟩

/-- A tag is accessible if from there on the edges are those of a grounded map, up to tags that are
accessible for another reason. -/
theorem Grounded.acc_follows {P : String → Prop} (hm : m.Grounded)
    (h : ∀ t, P t → Acc n.Follows t ∨
      ((∀ u, n.Requires t u ↔ m.Requires t u) ∧ ∀ u, m.Requires t u → P u)) :
    ∀ t, P t → Acc n.Follows t := by
  intro t
  induction t using hm.induction with
  | _ t ih =>
    intro ht
    rcases h t ht with hacc | ⟨hsame, hnext⟩
    · exact hacc
    · refine Acc.intro t fun u hu => ?_
      obtain ⟨htu, hself⟩ := hu
      rw [hsame] at htu hself
      exact ih u ⟨htu, hself⟩ (hnext u htu)

/-- Nothing follows a document that requires itself. -/
theorem acc_of_requires_self (h : m.Requires t t) : Acc m.Follows t :=
  Acc.intro t fun _ hu => absurd h hu.2

theorem acc_of_not_requires (h : ∀ u, ¬ m.Requires t u) : Acc m.Follows t :=
  Acc.intro t fun u hu => absurd hu.1 (h u)

theorem grounded_empty : (∅ : DocumentMap).Grounded := by
  refine ⟨fun t => acc_of_not_requires fun u h => ?_⟩
  cases h.contains

/-- A closed grounded map may write over the documents of another one. -/
theorem Grounded.union (hm : m.Grounded) (hn : n.Grounded) (hclosed : n.Closed) :
    Grounded (m.union n) := by
  -- the upper map is not left any more
  have hupper : ∀ t, n.contains t = true → Acc (Follows (m.union n)) t :=
    hn.acc_follows fun t ht =>
      .inr ⟨fun u => refers_union_of_contains ht, fun u => hclosed.contains_of_requires⟩
  refine ⟨fun t => hm.acc_follows (P := fun _ => True) (fun t _ => ?_) t trivial⟩
  by_cases ht : n.contains t = true
  · exact .inl (hupper t ht)
  · exact .inr ⟨fun u => refers_union_of_not_contains ht, fun u _ => trivial⟩

/-- Closed maps that are grounded by themselves are so together. -/
theorem grounded_merge {maps : List DocumentMap} (hm : ∀ m ∈ maps, m.Grounded)
    (hclosed : ∀ m ∈ maps, m.Closed) : (merge maps).Grounded :=
  merge_induction grounded_empty fun _ hacc m hmem => hacc.union (hm m hmem) (hclosed m hmem)

/-! ## Cycles -/

/-- What a document triggers has to come after it, by way of others or at once. -/
theorem Triggers.transGen_precedes (h : m.Triggers t u) : TransGen m.Precedes t u := by
  obtain ⟨v, hvt, hvu⟩ := h
  have htv : ReflTransGen m.Precedes t v :=
    reflTransGen_swap.1 (ReflTransGen.mono (fun _ _ hab => .inl hab) _ _ hvt)
  exact TransGen.tail' htv (.inr hvu)

/-- A document that has to come before another has to because of `require` edges alone, or by way of
triggers and then of `require` edges. -/
theorem transGen_precedes_cases (h : TransGen m.Precedes t u) :
    TransGen m.Requires u t ∨ ∃ v, TransGen m.Triggers t v ∧ ReflTransGen m.Requires u v := by
  -- a trigger starts a new chain; the `require` edges after it are kept apart until the next one
  induction h with
  | single h =>
    rcases h with hrequires | hin
    · exact .inl (.single hrequires)
    · exact .inr ⟨_, .single ⟨t, .refl, hin⟩, .refl⟩
  | tail _ h ih =>
    rcases h with hrequires | hin
    · rcases ih with hall | ⟨v, htv, hv⟩
      · exact .inl (.head hrequires hall)
      · exact .inr ⟨v, htv, .head hrequires hv⟩
    · rcases ih with hall | ⟨v, htv, hv⟩
      · exact .inr ⟨_, .single ⟨_, hall.to_reflTransGen, hin⟩, .refl⟩
      · exact .inr ⟨_, .tail htv ⟨_, hv, hin⟩, .refl⟩

/-- What requires the first tag of a trigger stands for it as well. -/
theorem Triggers.head (h : m.Triggers t u) (ht : ReflTransGen m.Requires t v) : m.Triggers v u := by
  obtain ⟨w, hwt, hwu⟩ := h
  exact ⟨w, hwt.trans ht, hwu⟩

/-- The edges of a grounded map can be satisfied exactly if no document requires itself and no chain
of triggers comes back to where it started. -/
theorem Grounded.satisfiable_iff (hm : m.Grounded) :
    m.Satisfiable ↔ (∀ t, ¬ m.Requires t t) ∧ ∀ t, ¬ TransGen m.Triggers t t := by
  constructor
  · intro h
    refine ⟨fun t ht => h t (.single (.inl ht)), fun t ht => h t ?_⟩
    exact ht.lift' id fun _ _ hab => hab.transGen_precedes
  · intro h t ht
    obtain ⟨hself, htriggers⟩ := h
    have hwf : WellFounded (Function.swap m.Requires) :=
      Subrelation.wf (fun hab => ⟨hab, hself _⟩) hm
    rcases transGen_precedes_cases ht with hall | ⟨v, htv, hv⟩
    · have hback : TransGen (Function.swap m.Requires) t t := transGen_swap.2 hall
      exact hwf.transGen.asymmetric t t hback hback
    · -- the chain comes back to a tag that requires where it started
      obtain ⟨w, htw, hwv⟩ := TransGen.head'_iff.1 htv
      exact htriggers v (TransGen.head' (htw.head hv) hwv)

end DocumentMap

end Provision
