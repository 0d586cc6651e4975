import Provision.Proofs.Conversion.Compiled
import Provision.Proofs.Registry.Check

/-!
# What becomes of prerequisites

Resolving compiles each applicable prerequisite as if it were alone
(`compile_start_of_requirements`) and merges the documents. A tag says the step, the module and the
state, but not the parameters, and prerequisites all have the step `require`: two of them that want
the same module in the same state, with different parameters, make different documents for one tag,
and the later one counts (`get?_required_eq_some_iff`). Nothing gets lost that way exactly if any
two prerequisites agree (`forall_within_required_iff`); the file ends with a module two of whose
prerequisites do not.
-/

namespace Provision.Converter

variable {c : Converter} {pm : PackageManager} {s : Schema} {m : DocumentMap} {ctx ctx' : Context}
  {docs : Prerequisite × Schema → DocumentMap} {t : String} {d : Document}

/-- A tag has the document of the last prerequisite that makes one for it. -/
theorem get?_required_eq_some_iff : (c.required pm s docs).get? t = some d ↔
    ∃ before q after, c.applicable pm s = before ++ q :: after ∧ (docs q).get? t = some d ∧
      ∀ q' ∈ after, (docs q').get? t = none := by
  unfold required
  rw [DocumentMap.get?_merge_eq_some_iff]
  constructor
  · intro h
    obtain ⟨before, m, after, hsplit, hd, hafter⟩ := h
    obtain ⟨before', rest, happ, -, hrest⟩ := List.map_eq_append_iff.1 hsplit
    obtain ⟨q, after', rfl, rfl, rfl⟩ := List.map_eq_cons_iff.1 hrest
    exact ⟨before', q, after', happ, hd, fun q' hq' => hafter _ (List.mem_map_of_mem hq')⟩
  · intro h
    obtain ⟨before, q, after, happ, hd, hafter⟩ := h
    refine ⟨before.map docs, docs q, after.map docs, ?_, hd, ?_⟩
    · rw [happ, List.map_append, List.map_cons]
    · intro n hn
      obtain ⟨q', hq', rfl⟩ := List.mem_map.1 hn
      exact hafter q' hq'

/-- The prerequisites' documents are all there exactly if any two prerequisites agree about the tags
of both. -/
theorem forall_within_required_iff :
    (∀ q ∈ c.applicable pm s, (docs q).Within (c.required pm s docs)) ↔
      ∀ q ∈ c.applicable pm s, ∀ q' ∈ c.applicable pm s, (docs q).Agree (docs q') := by
  unfold required
  have h := @DocumentMap.forall_within_merge_iff ((c.applicable pm s).map docs)
  simpa only [List.forall_mem_map] using h

/-- Prerequisites that resolving compiles, at whatever depth, compile to the same on their own. -/
theorem compile_start_of_requirements (h : (c.requirements s).run ctx = (.ok m, ctx')) :
    ∃ docs : Prerequisite × Schema → DocumentMap,
      (∀ q ∈ c.applicable ctx.packageManager s,
        ((c.compile requireStep q.2 q.1.parameters).run (Context.start ctx.platform)).1
          = .ok (docs q)) ∧
      m = c.required ctx.packageManager s docs := by
  obtain ⟨-, docs, hdocs, rfl⟩ := requirements_run_eq_ok_iff.1 h
  refine ⟨docs, fun q hq => ?_, rfl⟩
  have hcompiled := (hdocs q hq).mono (show maxDepth - ctx.depth ≤ maxDepth + 1 by omega)
  exact compile_start_eq_ok_iff.2 hcompiled

/-- A tag among the resolved requirements has the document of the last prerequisite that makes one
for it. So every document of every prerequisite is there, as compiling the prerequisite on its own
gives it, exactly if any two prerequisites make the same document for a tag that both of them
have. -/
theorem requirements_lossless_iff (h : (c.requirements s).run ctx = (.ok m, ctx')) :
    ∃ docs : Prerequisite × Schema → DocumentMap,
      (∀ q ∈ c.applicable ctx.packageManager s,
        ((c.compile requireStep q.2 q.1.parameters).run (Context.start ctx.platform)).1
          = .ok (docs q)) ∧
      (∀ t d, m.get? t = some d ↔
        ∃ before q after, c.applicable ctx.packageManager s = before ++ q :: after ∧
          (docs q).get? t = some d ∧ ∀ q' ∈ after, (docs q').get? t = none) ∧
      ((∀ q ∈ c.applicable ctx.packageManager s, (docs q).Within m) ↔
        ∀ q ∈ c.applicable ctx.packageManager s, ∀ q' ∈ c.applicable ctx.packageManager s,
          (docs q).Agree (docs q')) := by
  obtain ⟨docs, hdocs, rfl⟩ := compile_start_of_requirements h
  exact ⟨docs, hdocs, fun t d => get?_required_eq_some_iff, forall_within_required_iff⟩

/-- A module for packages. -/
def packageSchema : Schema :=
  { id := "package", resourceType := .pkg, attributes := .singleton "name" "pkgs",
    states := ["in"] }

/-- The requirement of a package. -/
def packageNamed (name : String) : Prerequisite := ⟨"package", .singleton "name" (.strings [name])⟩

/-- A module that requires two packages, each by a requirement of its own. -/
def workspaceSchema : Schema :=
  { id := "workspace", resourceType := .file, attributes := .singleton "name" "name",
    states := ["there"], requires := [packageNamed "git", packageNamed "curl"] }

/-- A converter that knows these two modules. -/
def developer : Converter where
  registry := .ofList [packageSchema, workspaceSchema]
  handlers := .standard

/-- One of the two packages gets lost. -/
theorem developer_loses_prerequisite : ofRegistry developer.registry = .ok developer ∧
    ∃ m, ((developer.requirements workspaceSchema).run (Context.start .ubuntu)).1 = .ok m ∧
    ∃ q ∈ developer.applicable Platform.ubuntu.packageManager workspaceSchema, ∃ docs,
      ((developer.compile requireStep q.2 q.1.parameters).run (Context.start .ubuntu)).1 =
        .ok docs ∧
      ¬ docs.Within m := by
  have hregistry : ofRegistry developer.registry = .ok developer :=
    Registry.ofRegistry_eq_ok_of_rank (fun m => if m = "workspace" then 1 else 0)
      (by decide +kernel) (by decide +kernel)
  let git := (packageNamed "git", packageSchema)
  let curl := (packageNamed "curl", packageSchema)
  let alone (q : Prerequisite × Schema) :=
    ((developer.compile requireStep q.2 q.1.parameters).run (Context.start .ubuntu)).1
  have hdiffer : (alone git).toOption.any (fun docs =>
      (alone curl).toOption.any fun docs' => ¬ docs.Agree docs') = true := by
    decide +kernel
  have hgit : git ∈ developer.applicable Platform.ubuntu.packageManager workspaceSchema := by
    decide +kernel
  have hcurl : curl ∈ developer.applicable Platform.ubuntu.packageManager workspaceSchema := by
    decide +kernel
  obtain ⟨m, hm⟩ := exists_eq_ok_of_isOk
    (show ((developer.requirements workspaceSchema).run (Context.start .ubuntu)).1.isOk = true by
      decide +kernel)
  obtain ⟨docs, hdocs, -, hiff⟩ := requirements_lossless_iff (Prod.ext hm rfl)
  simp only [Context.start_platform, Context.start_packageManager] at hdocs hiff
  have halone : ∀ q ∈ developer.applicable Platform.ubuntu.packageManager workspaceSchema,
      alone q = .ok (docs q) := hdocs
  rw [halone git hgit, halone curl hcurl] at hdiffer
  have hdisagree : ¬ (docs git).Agree (docs curl) := by simpa [Except.toOption] using hdiffer
  refine ⟨hregistry, m, hm, Classical.byContradiction fun hnone => hdisagree ?_⟩
  refine hiff.1 (fun q hq => ?_) git hgit curl hcurl
  exact Classical.byContradiction fun hlost => hnone ⟨q, hq, docs q, hdocs q hq, hlost⟩

end Provision.Converter
