import Provision.Proofs.Conversion.HostPackage
import Provision.Proofs.Conversion.Own
import Provision.Proofs.Handler.Wishes

/-!
# Packages with versions, from the request to the documents

A mapping of packages goes a long way: it is turned into a list, the packages are sorted into states
and versions written behind them (`build_packages`), the lists get their tags and edges
(`documents_packages`), and in the end the versions are read back from the texts and taken out.
`convert_packages` says what comes out of the whole: every package is in one place, in the order of
the mapping, as what the mapping asks for.
-/

namespace Provision

/-! ## Batches -/

/-- A standard module whose packages can be pinned to versions. -/
inductive Ecosystem where
  | gem
  | pip

namespace Ecosystem

def packageModule : Ecosystem → String
  | .gem => "common.gem.package"
  | .pip => "common.pip.package"

def resourceType : Ecosystem → ResourceType
  | .gem => .gem
  | .pip => .pip

/-- The package of the host that the module installs through. -/
def tool : Ecosystem → String
  | .gem => "rubygems"
  | .pip => "python-pip"

/-- The schema of the module. -/
def schema (k : Ecosystem) : Schema :=
  { id := k.packageModule, resourceType := k.resourceType, attributes := .singleton "name" "names",
    states := ["installed", "removed"], requires := systemPackage k.tool }

/-- A document of the module; it requires the tool. -/
def document (k : Ecosystem) (pm : PackageManager) (state : String) (attributes : Attributes) :
    Document :=
  { resourceType := k.resourceType, state, attributes, requires := [⟨.pkg, hostTag pm⟩] }

/-- The attributes of a pinned package: the version apart from the package, or both in one text. -/
def pinned (k : Ecosystem) (package version : String) : Attributes :=
  match k with
  | .gem => .ofList [("name", .str (.ofList (Text.trim package.toList))),
      ("version", .str (.ofList (Text.trim version.toList)))]
  | .pip => .singleton "name" (.str (package ++ "==" ++ version))

/-- The attributes of a batch. -/
def batch (packages : List Value) : Attributes := .singleton "names" (.list packages)

/-- The buckets of a mapping. -/
def buckets (l : List (String × Value)) : Buckets :=
  (Handler.groupItems (placed (wishes l))).map batch

/-- The documents of a mapping, with the versions still in the batches. -/
def documents (k : Ecosystem) (pm : PackageManager) (step : String) (l : List (String × Value)) :
    DocumentMap :=
  Converter.assemble k.schema step (.singleton (hostTag pm) (hostDocument k.tool)) ∅ (buckets l)

variable {k : Ecosystem} {pm : PackageManager} {p : Platform} {l : List (String × Value)}
  {step state platform t : String}

theorem get?_registry : Registry.standard.get? k.packageModule = some k.schema := by
  have hmem : k.schema ∈ standardSchemas := by
    cases k <;> decide +kernel
  exact Registry.get?_standard_of_mem hmem

theorem get?_handlers :
    HandlerTable.standard.get? k.packageModule = some Handler.pinnedPackages := by
  cases k <;> rfl

/-- A mapping becomes one batch for each state that it asks for. -/
theorem build_packages (hl : l ≠ []) (h : ∀ e ∈ l, Legible e) :
    HandlerTable.standard.build k.schema (batch (l.map Value.ofEntry)) = .ok (buckets l) := by
  have hlist : (batch (l.map Value.ofEntry)).get? "names" = some (.list (l.map Value.ofEntry)) :=
    Table.get?_insert_self
  have hpackages : Handler.pinnedPackages k.schema (batch (l.map Value.ofEntry)) =
      .ok (buckets l) := by
    have hbatch : ∀ items,
        ((batch (l.map Value.ofEntry)).erase "names").insert "names" (.list items)
          = batch items := fun _ => by
      unfold batch Table.singleton
      rw [Table.insert_erase, Table.insert_insert]
    unfold Handler.pinnedPackages
    rw [Handler.packages_listed hlist, mapM_placePair rfl h]
    simp only [hbatch]
    rfl
  refine Handler.build_eq_ok get?_handlers hpackages ?_
  -- the first package is in some bucket
  unfold buckets
  rw [Table.isEmpty_map]
  cases l with
  | nil => exact absurd rfl hl
  | cons e l =>
    obtain ⟨w, hw⟩ := (h e (List.mem_cons_self ..)).exists_wish
    rw [wishes_cons hw]
    exact Handler.isEmpty_groupItems_cons _

/-- There is a bucket for a state if some package is to be in it. -/
theorem get?_buckets : (buckets l).get? state =
    if listFor state (wishes l) = [] then none
    else some (batch (listFor state (wishes l))) := by
  unfold buckets listFor
  rw [Table.get?_map, Handler.get?_groupItems]
  split <;> rfl

/-! ## Documents -/

/-- The tags of the batches end otherwise than the one of the tool. -/
theorem stepTag_ne_hostTag (h : state = "installed" ∨ state = "removed") :
    stepTag k.packageModule step state ≠ hostTag pm := by
  -- a tag ends in its module and state, and both ends are known
  intro htag
  have hsuffix := suffix_stepTag k.packageModule step state
  rw [htag] at hsuffix
  revert hsuffix
  rcases h with rfl | rfl <;> cases k <;> cases pm <;> decide +kernel

/-- The map has a document for each of the two states that some package is to be in. -/
theorem get?_documents (h : state = "installed" ∨ state = "removed") :
    (k.documents pm step l).get? (stepTag k.packageModule step state) =
      if listFor state (wishes l) = [] then none
      else some (k.document pm state (batch (listFor state (wishes l)))) := by
  have htool : ((Table.singleton (hostTag pm) (hostDocument k.tool)).union ∅).get?
      (stepTag k.packageModule step state) = none :=
    Table.get?_insert_of_ne (stepTag_ne_hostTag h)
  have hown : (k.documents pm step l).get? (stepTag k.packageModule step state) =
      ((buckets l).get? state).map
        (Converter.ownDocument k.schema (.singleton (hostTag pm) (hostDocument k.tool)) ∅ state) :=
    Converter.get?_assemble_stepTag_eq_map htool
  rw [hown, get?_buckets]
  split <;> rfl

/-- The pins of a batch. -/
theorem pins_document {packages : List Value} : (k.document pm state (batch packages)).pins =
    (packages.filter (·.isPinned)).filterMap Value.text? := by
  cases k <;> rfl

/-- A mapping compiles to its batches and the tool. -/
theorem documents_packages (hstep : Text.isBlankText step.toList = false)
    (hplatform : Named.ofName? platform = some p) (hl : l ≠ []) (h : ∀ e ∈ l, Legible e) :
    Converter.standard.documents step k.packageModule (.singleton "name" (.map l)) platform =
      .ok (k.documents p.packageManager step l) := by
  have hcheck : Converter.standard.check step k.packageModule platform = .ok (k.schema, p) := by
    refine Converter.check_eq_ok_iff.2 ⟨hstep, ?_, hplatform, get?_registry, rfl⟩
    cases k <;> decide +kernel
  have hrename : k.schema.rename (.singleton "name" (.map l)) = .ok (batch (l.map Value.ofEntry)) :=
    Schema.rename_singleton rfl rfl
  unfold Converter.documents
  rw [hcheck, ok_bind]
  exact Converter.compile_start_eq_ok_iff_assemble.2
    ⟨_, _, _, hrename, build_packages hl h, Converter.requirements_systemPackage rfl p, rfl⟩

/-- Only the batch of the packages that are to be there has pins. -/
theorem pins_elsewhere (h : ∀ e ∈ l, Legible e) {d : Document}
    (hd : (k.documents pm step l).get? t = some d)
    (ht : t ≠ stepTag k.packageModule step "installed") :
    d.pins = [] := by
  by_cases hmem : t ∈ Converter.ownTags k.schema step (buckets l)
  · obtain ⟨state, attributes, hstate, rfl, hown⟩ := Converter.get?_assemble_own
      (.singleton (hostTag pm) (hostDocument k.tool)) ∅ hmem
    have hne : state ≠ "installed" := fun heq => ht (by rw [heq]; rfl)
    rw [get?_buckets] at hstate
    split at hstate
    · cases hstate
    · -- the list of the other state has bare packages only
      cases hstate
      have hd : d = k.document pm state (batch (listFor state (wishes l))) :=
        Option.some.inj (hd.symm.trans hown)
      rw [hd, pins_document, List.filter_eq_nil_iff.2, List.filterMap_nil]
      intro v hv
      rw [isPinned_of_mem_listFor (fun p hp => (readable_of_mem_wishes h hp).1) hne hv]
      exact Bool.false_ne_true
  · -- all that is left is the tool
    unfold documents at hd
    rw [Converter.get?_assemble_of_not_mem hmem] at hd
    have hhost : (Table.singleton (hostTag pm) (hostDocument k.tool)).get? t = some d := hd
    have hd : d = hostDocument k.tool := by
      rcases Table.mem_insert.1 (Table.get?_eq_some_iff.1 hhost) with heq | ⟨-, hempty⟩
      · exact (Prod.ext_iff.1 heq).2
      · cases hempty
    rw [hd]
    rfl

/-- The entries that are taken out of a mapping's documents. -/
theorem pinned_documents (h : ∀ e ∈ l, Legible e) : (k.documents pm step l).pinned =
    (pinnedPackages (wishes l)).map fun q => ⟨stepTag k.packageModule step "installed",
      k.document pm "installed" (batch (listFor "installed" (wishes l))), q.1 ++ "==" ++ q.2⟩ := by
  have hpins := pins_installed fun p hp => (readable_of_mem_wishes h hp).1
  rw [DocumentMap.pinned_eq fun t d hd ht => pins_elsewhere h hd ht, get?_documents (.inl rfl)]
  by_cases hnil : listFor "installed" (wishes l) = []
  · -- no batch, and no pins in the mapping either
    rw [hnil] at hpins
    rw [if_pos hnil, List.map_eq_nil_iff.1 hpins.symm]
    rfl
  · rw [if_neg hnil]
    dsimp only
    rw [pins_document, hpins, List.map_map]
    rfl

/-- The document of a pin, taken out of its batch. -/
theorem isolated_document (packages : List Value) (package version : String) :
    (k.document pm "installed" (batch packages)).isolated (package ++ "==" ++ version)
        ⟨.ofList (Text.trim package.toList), .ofList (Text.trim version.toList)⟩ =
      k.document pm "installed" (k.pinned package version) := by
  cases k <;> rfl

/-- A batch without its pins. -/
theorem reduced_document (packages : List Value) : (k.document pm state (batch packages)).reduced =
    k.document pm state (batch (packages.filter (!·.isPinned))) := by
  rw [Document.reduced_eq]
  cases k <;> rfl

theorem get?_reduce_documents (h : state = "installed" ∨ state = "removed") :
    (k.documents pm step l).reduce.get? (stepTag k.packageModule step state) =
      if listFor state (wishes l) = [] then none
      else some (k.document pm state
        (batch ((listFor state (wishes l)).filter (!·.isPinned)))) := by
  rw [DocumentMap.get?_reduce, get?_documents h]
  split
  · rfl
  · rw [Option.map_some, reduced_document]

/-- A legible pin can be taken out of any batch. -/
theorem cut_documents (k : Ecosystem) (pm : PackageManager) (h : ∀ e ∈ l, Legible e)
    {package version : String} (hq : (package, version) ∈ pinnedPackages (wishes l))
    (m : DocumentMap) (tag : String) (packages : List Value) : ∃ im,
      m.cut ⟨tag, k.document pm "installed" (batch packages), package ++ "==" ++ version⟩ = .ok im ∧
      im.get? (pinTag tag (package ++ "==" ++ version)) =
        some (k.document pm "installed" (k.pinned package version)) := by
  obtain ⟨hwhole, hclosed, hpackage, hversion⟩ := readable_of_mem_wishes h (mem_pinnedPackages.1 hq)
  have hpin :=
    Pin.ofEntry_append (not_pinSeparator_infix_append_iff.2 ⟨hwhole, hclosed⟩) hpackage hversion
  refine ⟨_, DocumentMap.isolate_eq_ok_iff.2 ⟨_, hpin, rfl⟩, ?_⟩
  rw [Table.get?_insert_self, isolated_document]

/-- The documents of a mapping expand: the pins can all be taken out, each with its document. -/
theorem expand_documents (k : Ecosystem) (pm : PackageManager) (step : String)
    (h : ∀ e ∈ l, Legible e) :
    ∃ isolated,
      (k.documents pm step l).expand = .ok (isolated ++ [(k.documents pm step l).reduce]) ∧
    List.Forall₂
      (fun q im => im.get? (pinTag (stepTag k.packageModule step "installed")
        (q.1 ++ "==" ++ q.2)) =
        some (k.document pm "installed" (k.pinned q.1 q.2)))
      (pinnedPackages (wishes l)) isolated := by
  have hnonempty : (k.documents pm step l).isEmpty = false := by
    have hcontains : (k.documents pm step l).contains (hostTag pm) = true :=
      Converter.contains_assemble.2 (.inr (.inr (Table.contains_of_get? Table.get?_insert_self)))
    obtain ⟨d, hd⟩ := Table.contains_iff.1 hcontains
    exact Table.isEmpty_of_get? hd
  obtain ⟨isolated, hcuts, hisolated⟩ := exists_mapM_eq_ok fun q hq => cut_documents k pm h hq
    (k.documents pm step l) (stepTag k.packageModule step "installed")
      (listFor "installed" (wishes l))
  refine ⟨isolated, DocumentMap.expand_eq_ok_iff.2 ⟨hnonempty, isolated, ?_, rfl⟩, hisolated⟩
  rw [pinned_documents h, List.mapM_map]
  exact hcuts

/-- A mapping of packages, each of which has its wish, converts: a package that is to be there in a
version gets a map of its own, with a document for it, and the last map has a batch of the packages
that are to be there in any version and one of those that are not to be there, all in the order of
the mapping. A batch is missing if the mapping asks for nothing of its state; of the packages that
are to be there the ones with a version count, too. -/
theorem convert_packages (k : Ecosystem) {P : Table Value}
    (hstep : Text.isBlankText step.toList = false) (hplatform : Named.ofName? platform = some p)
    (hP : P.isEmpty = false) (h : ∀ e ∈ P.entries, Legible e) :
    (wishes P.entries).map (·.1) = P.keys ∧ ∃ isolated main,
      Converter.standard.convert step k.packageModule (.singleton "name" (.ofTable P)) platform =
        .ok (isolated ++ [main]) ∧
      List.Forall₂
        (fun q im => im.get? (pinTag (stepTag k.packageModule step "installed")
          (q.1 ++ "==" ++ q.2)) =
          some (k.document p.packageManager "installed" (k.pinned q.1 q.2)))
        (pinnedPackages (wishes P.entries)) isolated ∧
      main.get? (stepTag k.packageModule step "installed") =
        (if ∀ w ∈ wishes P.entries, w.2 = .removed then none
        else some (k.document p.packageManager "installed"
          (.singleton "names" (.strings (keptPackages (wishes P.entries)))))) ∧
      main.get? (stepTag k.packageModule step "removed") =
        if removedPackages (wishes P.entries) = [] then none
        else some (k.document p.packageManager "removed"
          (.singleton "names" (.strings (removedPackages (wishes P.entries))))) := by
  have hl : P.entries ≠ [] := List.isEmpty_eq_false_iff.1 hP
  have hplain : ∀ w ∈ wishes P.entries, ¬ pinSeparator <:+: w.1.toList := fun w hw =>
    (readable_of_mem_wishes h hw).1
  obtain ⟨isolated, hexpand, hisolated⟩ := expand_documents k p.packageManager step h
  refine ⟨map_fst_wishes h, isolated, _,
    Converter.convert_eq_ok_iff.2 ⟨_, documents_packages hstep hplatform hl h, hexpand⟩, hisolated,
    ?_, ?_⟩
  · rw [get?_reduce_documents (.inl rfl), unpinned_installed hplain]
    simp only [listFor_installed_eq_nil_iff]
    rfl
  · rw [get?_reduce_documents (.inr rfl), unpinned_removed hplain]
    simp only [listFor_removed, List.map_eq_nil_iff]
    rfl

/-- Four packages: one in any version, one by the name of its state, one to be removed and one
pinned. -/
def gems : Table Value :=
  .ofList [("alpha", .null), ("beta", .str "installed"), ("delta", .str "removed"),
    ("gamma", .str " 1.0")]

/-- The pinned package has a map of its own, and the others are in two batches. -/
theorem gems_convert : ∃ im main,
    Converter.standard.convert "1" "common.gem.package"
      (.singleton "name" (.ofTable gems)) "centos" =
      .ok [im, main] ∧
    im.get? "_1_common_gem_package_installed_gamma== 1.0" = some (gem.document .yum "installed"
      (.ofList [("name", .str "gamma"), ("version", .str "1.0")])) ∧
    main.get? "_1_common_gem_package_installed" = some (gem.document .yum "installed"
      (.singleton "names" (.strings ["alpha", "beta"]))) ∧
    main.get? "_1_common_gem_package_removed" = some (gem.document .yum "removed"
      (.singleton "names" (.strings ["delta"]))) := by
  have hstep : Text.isBlankText "1".toList = false := by decide +kernel
  have hplatform : Named.ofName? "centos" = some Platform.centos := rfl
  have hlegible : ∀ e ∈ gems.entries, Legible e := by decide +kernel
  obtain ⟨-, isolated, main, hconvert, hisolated, hinstalled, hremoved⟩ :=
    convert_packages .gem hstep hplatform rfl hlegible
  have hpins : pinnedPackages (wishes gems.entries) = [("gamma", " 1.0")] := by decide +kernel
  rw [hpins] at hisolated
  cases hisolated with
  | cons hpin hrest =>
    cases hrest
    refine ⟨_, main, hconvert, ?_, ?_, ?_⟩
    · have htag : pinTag (stepTag gem.packageModule "1" "installed") ("gamma" ++ "==" ++ " 1.0")
          = "_1_common_gem_package_installed_gamma== 1.0" := by decide +kernel
      have hattributes : gem.pinned "gamma" " 1.0"
          = .ofList [("name", .str "gamma"), ("version", .str "1.0")] := by decide +kernel
      rw [← htag, ← hattributes]
      exact hpin
    · have htag : stepTag gem.packageModule "1" "installed" =
          "_1_common_gem_package_installed" := by
        decide +kernel
      have hkept : keptPackages (wishes gems.entries) = ["alpha", "beta"] := by decide +kernel
      rw [← htag, hinstalled, hkept]
      exact if_neg (by decide +kernel)
    · have htag : stepTag gem.packageModule "1" "removed" = "_1_common_gem_package_removed" := by
        decide +kernel
      have hgone : removedPackages (wishes gems.entries) = ["delta"] := by decide +kernel
      rw [← htag, hremoved, hgone]
      rfl

end Ecosystem

end Provision
