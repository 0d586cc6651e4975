import Provision.Proofs.Conversion.Edges
import Provision.Proofs.Document.Ordering

/-!
# The order of the converted documents

Own documents require every document of their prerequisites, and these were there before, so one
level after another the `require` edges of a compiled map stay `Grounded` (`Compiled.grounded`).
With triggers this is different. A prerequisite's trigger is one of the documents that the
prerequisites of a module bring along, and all of these are converted under the one step `require`:
a module's own trigger may have the tag of a trigger that a prerequisite of it brought. Then the
module requires the document that it is required in. So the edges of a conversion can be satisfied
under a condition on its triggers, and the file ends with a conversion that fails it.
-/

namespace Provision

open Relation

namespace DocumentMap

variable {m : DocumentMap}

theorem Grounded.reduce (h : m.Grounded) : m.reduce.Grounded := by
  have hsame : ∀ t u, m.reduce.Requires t u ↔ m.Requires t u :=
    fun _ _ => refers_reduce fun _ => Document.requires_reduced
  refine ⟨fun t => h.acc_follows (P := fun _ => True) (fun t _ => ?_) t trivial⟩
  exact .inr ⟨hsame t, fun _ _ => trivial⟩

end DocumentMap

namespace Converter

variable {c : Converter} {pm : PackageManager} {levels : Nat} {step module platform t u : String}
  {s : Schema} {params : Parameters} {m requires triggers : DocumentMap} {maps : List DocumentMap}
  {buckets : Buckets} {ctx ctx' : Context} {part : Document → List Edge}

/-- Own documents require all that their prerequisites made; the others what they required
before. -/
theorem requires_assemble (htriggers : ∀ t d, triggers.get? t = some d → d.edges = []) :
    (assemble s step requires triggers buckets).Requires t u ↔
      (t ∈ ownTags s step buckets ∧ requires.contains u = true) ∨
      (t ∉ ownTags s step buckets ∧ ¬ triggers.contains t = true ∧ requires.Requires t u) := by
  have hnone : ∀ t d, triggers.get? t = some d → d.requires = [] :=
    fun t d hd => Document.requires_of_edges_eq_nil (htriggers t d hd)
  rw [DocumentMap.contains_iff_mem_edges]
  exact refers_assemble (fun _ _ => rfl) hnone

/-- Own documents may be put over closed grounded requirements. -/
theorem assemble_grounded (hgrounded : requires.Grounded) (hclosed : requires.Closed)
    (htriggers : ∀ t d, triggers.get? t = some d → d.edges = []) :
    (assemble s step requires triggers buckets).Grounded := by
  -- an own document under the tag of a requirement requires itself
  have hrequired : ∀ t, requires.contains t = true →
      Acc (assemble s step requires triggers buckets).Follows t := by
    refine hgrounded.acc_follows fun t ht => ?_
    -- by what was written over the tag: an own document, a trigger document or nothing
    by_cases hown : t ∈ ownTags s step buckets
    · exact .inl (DocumentMap.acc_of_requires_self
        ((requires_assemble htriggers).2 (.inl ⟨hown, ht⟩)))
    · by_cases htrigger : triggers.contains t = true
      · refine .inl (DocumentMap.acc_of_not_requires fun u hu => ?_)
        rcases (requires_assemble htriggers).1 hu with ⟨h, -⟩ | ⟨-, h, -⟩
        · exact hown h
        · exact h htrigger
      · refine .inr ⟨fun u => ?_, fun u => hclosed.contains_of_requires⟩
        rw [requires_assemble htriggers]
        simp [hown, htrigger]
  refine ⟨fun t => Acc.intro t fun u hu => hrequired u ?_⟩
  rcases (requires_assemble htriggers).1 hu.1 with ⟨-, h⟩ | ⟨-, -, h⟩
  · exact h
  · exact hclosed.contains_of_requires h

/-- Whatever is compiled is grounded, however deep its prerequisites are nested. -/
theorem Compiled.grounded (h : c.Compiled pm levels step s params m) : m.Grounded := by
  induction h with
  | intro docs renamed built nested ih =>
    have hclosed : ∀ q ∈ c.applicable pm _, (docs q).Closed := fun q hq => (nested q hq).closed
    have hgrounded := DocumentMap.grounded_merge (List.forall_mem_map.2 ih)
      (List.forall_mem_map.2 hclosed)
    exact assemble_grounded hgrounded (required_closed hclosed)
      fun _ _ => Schema.triggerDocuments_edges

/-- The edges of the last map of a conversion can be satisfied exactly if no document requires
itself and no chain of triggers comes back to where it started. The `require` edges alone are never
to blame. -/
theorem satisfiable_getLast?_convert_iff (h : c.convert step module params platform = .ok maps) :
    ∃ main, maps.getLast? = some main ∧
      (main.Satisfiable ↔ (∀ t, ¬ main.Requires t t) ∧ ∀ t, ¬ TransGen main.Triggers t t) := by
  obtain ⟨m, hm, hexpand⟩ := convert_eq_ok_iff.1 h
  obtain ⟨s, p, -, hcompiled⟩ := documents_eq_ok_iff.1 hm
  exact ⟨m.reduce, DocumentMap.getLast?_expand hexpand, hcompiled.grounded.reduce.satisfiable_iff⟩

/-- Two tools that both refresh a cache, where the one needs the other, and an application that
needs both. -/
def refreshed : Converter where
  registry := .ofList [
    { id := "cache", resourceType := .cmd, attributes := .singleton "name" "name",
      states := ["run"] },
    { id := "base", resourceType := .file, attributes := .singleton "name" "name",
      states := ["there"], triggers := [⟨"cache", [⟨"name", "name"⟩]⟩] },
    { id := "tool", resourceType := .file, attributes := .singleton "name" "name",
      states := ["there"], requires := [⟨"base", .singleton "name" (.str "b")⟩],
      triggers := [⟨"cache", [⟨"name", "name"⟩]⟩] },
    { id := "app", resourceType := .file, attributes := .singleton "name" "name",
      states := ["there"], requires := [⟨"tool", .singleton "name" (.str "t")⟩] }]
  handlers := .standard

/-- The tool both requires the cache's document and is required in it. -/
theorem refreshed_not_satisfiable : ofRegistry refreshed.registry = .ok refreshed ∧
    ∃ maps main, refreshed.convert "1" "app" (.singleton "name" (.str "a")) "ubuntu" = .ok maps ∧
      maps.getLast? = some main ∧ ¬ main.Satisfiable := by
  have hregistry : ofRegistry refreshed.registry = .ok refreshed :=
    Registry.ofRegistry_eq_ok_of_rank
      (fun m => if m = "app" then 2 else if m = "tool" then 1 else 0)
      (by decide +kernel) (by decide +kernel)
  let tool := "_require_tool_there"
  let cache := "_require_cache_require_in_run"
  have hedges : ((refreshed.convert "1" "app" (.singleton "name" (.str "a")) "ubuntu").toOption.bind
      List.getLast?).any (fun main =>
        main.Requires tool cache ∧ main.RequiredIn tool cache) = true := by
    decide +kernel
  obtain ⟨maps, h⟩ := exists_eq_ok_of_isOk
    (show (refreshed.convert "1" "app" (.singleton "name" (.str "a")) "ubuntu").isOk = true by
      decide +kernel)
  obtain ⟨main, hlast, hiff⟩ := satisfiable_getLast?_convert_iff h
  simp only [h, Except.toOption, Option.bind_some, hlast, Option.any_some,
    decide_eq_true_eq] at hedges
  obtain ⟨hrequires, hin⟩ := hedges
  refine ⟨hregistry, maps, main, h, hlast, fun hsat => ?_⟩
  exact (hiff.1 hsat).2 cache (.single ⟨tool, .single hrequires, hin⟩)

end Converter

end Provision
