import Provision.Proofs.Conversion.Assembled
import Provision.Proofs.Conversion.Compiled
import Provision.Proofs.Expansion
import Provision.Proofs.Registry.Check

/-!
# Edges of the converted documents

Own documents refer to what their prerequisites and triggers left in the map, and that is still
there when they are written over it, whatever tags coincide: tags are overwritten, never removed. So
every map that is compiled at any depth is closed (`Compiled.closed`), by induction on how it is
compiled. Taking version pins out keeps tags and edges (`DocumentMap.Closed.reduce`), so the last
map of a conversion is closed as well.
-/

namespace Provision

namespace DocumentMap

variable {m : DocumentMap} {maps : List DocumentMap}

/-- Taking pins out of a closed map leaves a closed map. -/
theorem Closed.reduce (h : m.Closed) : m.reduce.Closed := by
  rw [closed_iff] at h ⊢
  intro t d hd
  rw [get?_reduce] at hd
  obtain ⟨d', hd', rfl⟩ := Option.map_eq_some_iff.1 hd
  intro e he
  rw [Document.edges_reduced] at he
  rw [contains_reduce]
  exact h t d' hd' e he

/-- The last map of an expansion is the map itself without its pins. -/
theorem getLast?_expand (h : m.expand = .ok maps) : maps.getLast? = some m.reduce := by
  obtain ⟨isolated, rfl, -, -⟩ := expand_eq_ok h
  exact List.getLast?_concat

end DocumentMap

namespace Converter

variable {c : Converter} {pm : PackageManager} {levels : Nat} {step module platform : String}
  {s : Schema} {params : Parameters} {m requires triggers : DocumentMap} {maps : List DocumentMap}
  {buckets : Buckets} {docs : Prerequisite × Schema → DocumentMap} {ctx ctx' : Context}

/-- Own documents refer to the documents that they are put beside. -/
theorem ownDocument_resolves {state : String} {attributes : Attributes} :
    (ownDocument s requires triggers state attributes).Resolves
      (assemble s step requires triggers buckets) := by
  intro e he
  rw [contains_assemble]
  rcases Document.mem_edges.1 he with hrequired | htrigger | hwatched
  · exact .inr (.inr (DocumentMap.contains_of_mem_edges hrequired))
  · exact .inr (.inl (DocumentMap.contains_of_mem_edges htrigger))
  · cases hwatched

/-- Own documents have edges to what is beside them only. -/
theorem assemble_closed (hrequires : requires.Closed) (htriggers : triggers.Closed) :
    (assemble s step requires triggers buckets).Closed := by
  refine (hrequires.union htriggers).insertAll fun entry hentry => ?_
  obtain ⟨⟨state, attributes⟩, -, rfl⟩ := List.mem_map.1 hentry
  exact ownDocument_resolves

/-- Trigger documents refer to nothing, so they are closed by themselves. -/
theorem triggerDocuments_closed : (s.triggerDocuments c.registry pm step params).Closed := by
  rw [DocumentMap.closed_iff]
  intro t d hd
  exact Document.resolves_of_edges_eq_nil (Schema.triggerDocuments_edges hd)

theorem required_closed (h : ∀ q ∈ c.applicable pm s, (docs q).Closed) :
    (c.required pm s docs).Closed :=
  DocumentMap.closed_merge (List.forall_mem_map.2 h)

/-- Whatever is compiled is closed, however deep its prerequisites are nested. -/
theorem Compiled.closed (h : c.Compiled pm levels step s params m) : m.Closed := by
  -- on how the map is compiled; the hypothesis holds of every applicable prerequisite
  induction h with
  | intro docs renamed built nested ih =>
    exact assemble_closed (required_closed ih) triggerDocuments_closed

/-- What the prerequisites of a module compile to is closed, at any stage and depth. -/
theorem requirements_closed (h : (c.requirements s).run ctx = (.ok m, ctx')) : m.Closed := by
  obtain ⟨-, docs, hdocs, rfl⟩ := requirements_run_eq_ok_iff.1 h
  exact required_closed fun q hq => (hdocs q hq).closed

/-- Before the expansion all edges lead to tags of the map as well. -/
theorem documents_closed (h : c.documents step module params platform = .ok m) : m.Closed := by
  obtain ⟨s, p, -, hcompiled⟩ := documents_eq_ok_iff.1 h
  exact hcompiled.closed

/-- Every edge of every document of the last map of a conversion leads to a tag of that map. -/
theorem getLast?_convert_closed (h : c.convert step module params platform = .ok maps) :
    ∃ main, maps.getLast? = some main ∧ main.Closed := by
  obtain ⟨m, hm, hexpand⟩ := convert_eq_ok_iff.1 h
  exact ⟨m.reduce, DocumentMap.getLast?_expand hexpand, (documents_closed hm).reduce⟩

/-- A tool that needs a pinned package and refreshes a cache, and an application that needs the
tool. -/
def pinnedTool : Converter where
  registry := .ofList [
    { id := "package", resourceType := .pip, attributes := .singleton "name" "names",
      states := ["in"] },
    { id := "cache", resourceType := .cmd, attributes := .singleton "name" "name",
      states := ["run"] },
    { id := "tool", resourceType := .file, attributes := .singleton "name" "name",
      states := ["there"], requires := [⟨"package", .singleton "name" (.strings ["lib==1"])⟩],
      triggers := [⟨"cache", [⟨"name", "name"⟩]⟩] },
    { id := "app", resourceType := .file, attributes := .singleton "name" "name",
      states := ["there"], requires := [⟨"tool", .singleton "name" (.str "t")⟩] }]
  handlers := .standard

/-- The map of the application has the pinned package, the tool and the cache. -/
theorem pinnedTool_app_closed : ofRegistry pinnedTool.registry = .ok pinnedTool ∧
    ∃ maps main, pinnedTool.convert "1" "app" (.singleton "name" (.str "a")) "ubuntu" = .ok maps ∧
      maps.getLast? = some main ∧ main.Closed := by
  have hregistry : ofRegistry pinnedTool.registry = .ok pinnedTool :=
    Registry.ofRegistry_eq_ok_of_rank
      (fun m => if m = "app" then 2 else if m = "tool" then 1 else 0)
      (by decide +kernel) (by decide +kernel)
  obtain ⟨maps, h⟩ := exists_eq_ok_of_isOk
    (show (pinnedTool.convert "1" "app" (.singleton "name" (.str "a")) "ubuntu").isOk = true by
      decide +kernel)
  obtain ⟨main, hlast, hclosed⟩ := getLast?_convert_closed h
  exact ⟨hregistry, maps, main, h, hlast, hclosed⟩

end Converter

end Provision
