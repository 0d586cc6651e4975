import Provision.Proofs.Registry.Check
import Provision.Proofs.Schema.Json

/-!
# Registry files

The file that is written for some schemas is read as these schemas, in their order
(`readText_fileOf`), so it makes a registry exactly if they do (`check_exact`), and the file of a
sound registry is read as that registry (`ofText_toText`). What has to be asked of the values in the
prerequisites is that each number in them that is no integer is what its own text stands for, and
that they leave room for the six containers they stand in (`Schema.Writable`).
-/

namespace Provision

namespace Binary64

/-- The first grid with a decimal that reads back gives the shortest one. -/
theorem shortest_of_hit {x : Binary64} {tie : Tie} {d : Decimal} (hzero : x.isZero = false)
    (hhit : ((List.range 17).findSome? fun n =>
      x.onGrid? tie (x.decimalOrder - (n + 1 : Nat))) = some d)
    (htrim : d.digits % 10 ≠ 0) : x.shortest tie = d := by
  have htrimmed : d.trimZeros = d := by
    rw [Decimal.trimZeros, dif_neg fun h => htrim h.2]
  rw [shortest, hzero, if_neg Bool.false_ne_true]
  simp only [hhit, Option.getD_some, htrimmed]

/-- The number 2.5. -/
def twoAndAHalf : Binary64 := ⟨0x4004000000000000, by decide⟩

end Binary64

/-- The values that a schema's prerequisites pass on are read from a file as they are: mappings
ascend, numbers are what their texts stand for, and nothing is nested too deep inside the six
containers around it. -/
def Schema.Writable (s : Schema) : Prop := ∀ p ∈ s.requires, ∀ v ∈ p.parameters.values, v.Ordered ∧
  (∀ x ∈ v.floats, Json.Spells x.toJsonText (.float x)) ∧
  v.toJson.depth + 6 ≤ Json.Source.maxNesting

namespace Registry

open Binary64

variable {r found : Registry} {l l' : List Schema}

/-- The members that are written. -/
def members (l : List Schema) : List (String × Option Json) :=
  [("modules", some (.arr (l.map Schema.toJson)))]

/-- Schemas are read as they were written. -/
theorem schemasOfSource_fileOf (h : ∀ s ∈ l, s.Writable) :
    schemasOfSource (.ofJson (fileOf l)) = .ok l := by
  have hnames : ((members l).map (·.1)).Nodup := List.nodup_singleton "modules"
  have hrecord : Json.record ["modules"] (.ofJson (fileOf l)) = .ok (Json.membersOf (members l)) :=
    Json.record_present hnames
  have hschemas : Json.listOf Schema.ofSource (.ofJson (.arr (l.map Schema.toJson))) = .ok l :=
    Json.listOf_ofJson fun s hs => Schema.ofSource_toJson fun p hp v hv => (h s hs p hp v hv).1
  unfold schemasOfSource
  simp only [hrecord, ok_bind, Json.required_membersOf hnames (.head _) hschemas]

/-- The values in the prerequisites stand inside six containers. -/
theorem readable_fileOf (h : ∀ s ∈ l, s.Writable) :
    Json.Readable Json.Source.maxNesting (fileOf l) := by
  have hvalues : ∀ s ∈ l, ∀ p ∈ s.requires, ∀ v ∈ p.parameters.values,
      Json.Readable (120 + 1) v.toJson := by
    intro s hs p hp v hv
    obtain ⟨-, hfloats, hdepth⟩ := h s hs p hp v hv
    exact ⟨Value.legible_toJson hfloats, Nat.le_of_add_le_add_right hdepth⟩
  have hschemas : Json.Readable 126 (.arr (l.map Schema.toJson)) :=
    .items fun s hs => Schema.readable_toJson (hvalues s hs)
  apply Json.Readable.obj
  intro m hm
  obtain rfl := List.mem_singleton.1 hm
  exact hschemas

/-- The file of some schemas is read as these schemas. -/
theorem readText_fileOf (h : ∀ s ∈ l, s.Writable) :
    Json.readText schemasOfSource (fileOf l).pretty = .ok l := by
  rw [Json.readText_pretty (readable_fileOf h), schemasOfSource_fileOf h]

/-- The file of some schemas makes a registry if no two of them have one id and the registry is
sound. -/
theorem ofText_fileOf_eq_ok_iff (h : ∀ s ∈ l, s.Writable) : ofText (fileOf l).pretty = .ok found ↔
    (l.map (·.id)).Nodup ∧ (ofList l).Sound ∧ found = ofList l := by
  rw [ofText_eq_ok_iff, readText_fileOf h, ← ofSchemas_eq_ok_iff]
  constructor
  · rintro ⟨_, ⟨⟩, hfound⟩
    exact hfound
  · exact fun hfound => ⟨l, rfl, hfound⟩

/-- A check accepts the sound registries and no others, and where it refuses one for a circle the
circle is there. The search for it ends on every registry: it calls itself along `Calls` only, which
comes to an end, and nothing else satisfies its equation. A text is accepted exactly if it reads as
schemas of which no two have one id and which make a sound registry. The file that is written for
some schemas reads as these, so it is accepted exactly if they are like that, in whatever order they
stand. -/
theorem check_exact (r : Registry) :
    (r.check = .ok () ↔ r.Sound) ∧
    (∀ path, r.check = .error (.cycle path) → r.Circle path) ∧
    (WellFounded fun inner outer => r.Calls outer inner) ∧
    (∀ search, search = r.visit ↔ ∀ path done m,
      search path done m = r.searchStep search path done m) ∧
    (∀ text found, ofText text = .ok found ↔
      ∃ l, Json.readText schemasOfSource text = .ok l ∧
        (l.map (·.id)).Nodup ∧ (ofList l).Sound ∧ found = ofList l) ∧
    (∀ l, (∀ s ∈ l, s.Writable) → ∀ found, ofText (fileOf l).pretty = .ok found ↔
      (l.map (·.id)).Nodup ∧ (ofList l).Sound ∧ found = ofList l) ∧
    (∀ l l' found, List.Perm l l' → (ofSchemas l = .ok found ↔ ofSchemas l' = .ok found)) ∧
    ∀ l l' found, List.Perm l l' → (∀ s ∈ l, s.Writable) →
      (ofText (fileOf l).pretty = .ok found ↔ ofText (fileOf l').pretty = .ok found) := by
  refine ⟨check_eq_ok_iff, fun _ => circle_of_check, wellFounded_calls r, fun _ => eq_visit_iff,
    fun text found => ?_, fun _ h _ => ofText_fileOf_eq_ok_iff h, fun _ _ _ =>
      ofSchemas_perm, fun l l' found hperm h => ?_⟩
  · rw [ofText_eq_ok_iff]
    simp only [ofSchemas_eq_ok_iff]
  · have h' : ∀ s ∈ l', s.Writable := fun s hs => h s (hperm.mem_iff.2 hs)
    rw [ofText_fileOf_eq_ok_iff h, ofText_fileOf_eq_ok_iff h', ← ofSchemas_eq_ok_iff,
      ← ofSchemas_eq_ok_iff]
    exact ofSchemas_perm hperm

/-- What is required without parameters has nothing that could not be written. -/
theorem writable_requiring (id : String) (modules : List String) :
    (requiring id modules).Writable := by
  intro p hp v hv
  obtain ⟨m, -, rfl⟩ := List.mem_map.1 hp
  cases hv

/-- A module, and one that requires it. -/
def chainSchemas : List Schema := [requiring "base" [], requiring "app" ["base"]]

/-- The refusal names the circle and not the way to it, the file of such modules is refused in every
order, and so is a file in which a module comes twice. A file without circles is accepted whichever
module comes first. -/
theorem looped_circle : looped.check = .error (.cycle ["shared", "tail", "shared"]) ∧
    looped.Circle ["shared", "tail", "shared"] ∧ ¬ looped.Sound ∧
    (∀ l, List.Perm loopedSchemas l → ∀ found, ofText (fileOf l).pretty ≠ .ok found) ∧
    (∀ found, ofText (fileOf [requiring "base" [], requiring "base" []]).pretty ≠ .ok found) ∧
    ofText (fileOf chainSchemas).pretty = .ok (ofList chainSchemas) ∧
    ofText (fileOf chainSchemas.reverse).pretty = .ok (ofList chainSchemas) := by
  obtain ⟨hsound, hcircle, -, -, -, hfile, -, horder⟩ := check_exact looped
  have hunsound : ¬ looped.Sound := by
    intro h
    have hcheck := check_looped
    rw [hsound.2 h] at hcheck
    cases hcheck
  have hlooped : ∀ s ∈ loopedSchemas, s.Writable := by
    simp only [loopedSchemas, List.forall_mem_cons]
    exact ⟨writable_requiring _ _, writable_requiring _ _, writable_requiring _ _,
      writable_requiring _ _, writable_requiring _ _, by simp⟩
  have htwice : ∀ s ∈ [requiring "base" [], requiring "base" []], s.Writable := by
    simp only [List.forall_mem_cons]
    exact ⟨writable_requiring _ _, writable_requiring _ _, by simp⟩
  have hchain : ∀ s ∈ chainSchemas, s.Writable := by
    simp only [chainSchemas, List.forall_mem_cons]
    exact ⟨writable_requiring _ _, writable_requiring _ _, by simp⟩
  have hchained : (ofList chainSchemas).Sound := check_eq_ok_iff.1
    (check_eq_ok_of_rank (fun m => if m = "app" then 1 else 0) (by decide +kernel)
      (by decide +kernel))
  have haccepted := (hfile chainSchemas hchain _).2 ⟨by decide, hchained, rfl⟩
  refine ⟨check_looped, hcircle _ check_looped, hunsound, fun l hl found hfound =>
    ?_, fun found hfound => ?_, haccepted, ?_⟩
  · exact hunsound ((hfile _ hlooped found).1 ((horder _ _ found hl hlooped).2 hfound)).2.1
  · exact absurd ((hfile _ htwice found).1 hfound).1 (by decide)
  · exact (horder _ _ _ (List.reverse_perm chainSchemas).symm hchain).1 haccepted

/-- The values of the parameters in all prerequisites. -/
def requiredValues (r : Registry) : List Value :=
  r.all.flatMap fun s => s.requires.flatMap fun p => p.parameters.values

theorem mem_requiredValues {v : Value} :
    v ∈ r.requiredValues ↔ ∃ s ∈ r.all, ∃ p ∈ s.requires, v ∈ p.parameters.values := by
  simp only [requiredValues, List.mem_flatMap]

theorem map_all : (r.all.map fun s => (s.id, s)) = r.schemas.entries := by
  rw [all, Table.values, List.map_map]
  conv_rhs => rw [← List.map_id r.schemas.entries]
  exact List.map_congr_left fun e he => Prod.ext (r.keyed e he).symm rfl

/-- A registry is the registry of its schemas. -/
theorem ofList_all : ofList r.all = r := by
  have hschemas : (ofList r.all).schemas = r.schemas := by
    rw [schemas_ofList, map_all, Table.ofList_entries]
  apply ext_get?
  intro m
  rw [get?, get?, hschemas]

theorem nodup_id_all : (r.all.map (·.id)).Nodup := by
  have hkeys : r.all.map (·.id) = r.schemas.keys := by
    rw [Table.keys, ← map_all, List.map_map]
    rfl
  rw [hkeys]
  exact Table.nodup_keys

/-- A registry of one module that requires nothing. -/
def oneSchema (id : String) : Registry := .ofList [requiring id []]

theorem all_oneSchema (id : String) : (oneSchema id).all = [requiring id []] := rfl

/-- Whatever text the id is, the registry is sound. -/
theorem check_oneSchema (id : String) : (oneSchema id).check = .ok () :=
  check_eq_ok_of_rank (fun _ => 0) rfl (by simp [all_oneSchema, requiring])

/-- Nor is the id looked at when the registry is read from a file. -/
theorem ofText_oneSchema (id : String) : ofText (oneSchema id).toText = .ok (oneSchema id) :=
  (ofText_fileOf_eq_ok_iff (List.forall_mem_singleton.2 (writable_requiring id []))).2
    ⟨List.nodup_singleton id, check_eq_ok_iff.1 (check_oneSchema id), rfl⟩

/-- A registry that was read from a file is sound. -/
theorem sound_of_ofText {text : String} (h : ofText text = .ok r) : r.Sound := by
  obtain ⟨l, -, hl⟩ := ofText_eq_ok_iff.1 h
  obtain ⟨-, hsound, rfl⟩ := ofSchemas_eq_ok_iff.1 hl
  exact hsound

/-- The file of a sound registry is read as the registry: with the same ids, and under each of them
the same schema, whatever it leaves out and whatever values its prerequisites pass on. -/
theorem ofText_toText (hcheck : r.check = .ok ()) (hordered : ∀ v ∈ r.requiredValues, v.Ordered)
    (hfloats : ∀ v ∈ r.requiredValues, ∀ x ∈ v.floats, Json.Spells x.toJsonText (.float x))
    (hdepth : ∀ v ∈ r.requiredValues, v.toJson.depth + 6 ≤ Json.Source.maxNesting) :
    ofText r.toText = .ok r := by
  have hwritable : ∀ s ∈ r.all, s.Writable := by
    intro s hs p hp v hv
    have hmem := mem_requiredValues.2 ⟨s, hs, p, hp, hv⟩
    exact ⟨hordered v hmem, hfloats v hmem, hdepth v hmem⟩
  have hsound : (ofList r.all).Sound := by
    rw [ofList_all]
    exact check_eq_ok_iff.1 hcheck
  exact (ofText_fileOf_eq_ok_iff hwritable).2 ⟨nodup_id_all, hsound, ofList_all.symm⟩

/-- Parameters with a value of each kind. -/
def assortedValues : Parameters :=
  .ofList [("nothing", .null), ("flag", .bool true), ("count", .int (-3)),
    ("ratio", .float twoAndAHalf), ("title", .str "say \"so\""),
    ("list", .list [.int 1, .str "x", .list []]),
  ("map", .map [("k", .null), ("l", .float twoAndAHalf)])]

/-- A module with everything that a schema may have. -/
def assortedSchema : Schema where
  id := "app"
  resourceType := .pkg
  attributes := .ofList [("name", "names"), ("version", "version")]
  states := ["in", "out"]
  packageManager := some .apt
  requires := [⟨"base", assortedValues⟩, ⟨"base", ∅⟩]
  triggers := [⟨"base", [⟨"version", "name"⟩]⟩]

/-- A registry of a module with everything and one with no more than there has to be. -/
def assorted : Registry := .ofList [assortedSchema, requiring "base" []]

/-- What is there and what is left out is read back, values of all kinds included. -/
theorem assorted_file : assorted.check = .ok () ∧ (∀ v ∈ assorted.requiredValues, v.Ordered) ∧
    (∀ v ∈ assorted.requiredValues, ∀ x ∈ v.floats, Json.Spells x.toJsonText (.float x)) ∧
    (∀ v ∈ assorted.requiredValues, v.toJson.depth + 6 ≤ Json.Source.maxNesting) ∧
    ofText assorted.toText = .ok assorted := by
  have hcheck : assorted.check = .ok () :=
    check_eq_ok_of_rank (fun m => if m = "app" then 1 else 0) (by decide +kernel)
      (by decide +kernel)
  have hordered : ∀ v ∈ assorted.requiredValues, v.Ordered := by decide +kernel
  have hspells : Json.Spells twoAndAHalf.toJsonText (.float twoAndAHalf) := by
    have hshortest : twoAndAHalf.shortest .toEven = ⟨25, -1⟩ :=
      shortest_of_hit (by decide +kernel) (by decide +kernel) (by decide)
    have htext : twoAndAHalf.toJsonText = "2.5" := by
      unfold toJsonText
      rw [hshortest]
      decide +kernel
    rw [htext]
    exact ⟨_, rfl, rfl⟩
  have hfloats : ∀ v ∈ assorted.requiredValues, ∀ x ∈ v.floats,
      Json.Spells x.toJsonText (.float x) := by
    have honly : ∀ v ∈ assorted.requiredValues, ∀ x ∈ v.floats, x = twoAndAHalf := by decide +kernel
    intro v hv x hx
    rw [honly v hv x hx]
    exact hspells
  have hdepth : ∀ v ∈ assorted.requiredValues, v.toJson.depth + 6 ≤ Json.Source.maxNesting := by
    decide +kernel
  exact ⟨hcheck, hordered, hfloats, hdepth, ofText_toText hcheck hordered hfloats hdepth⟩

end Registry

end Provision
