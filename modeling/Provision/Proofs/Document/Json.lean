import Provision.Document.Json
import Provision.Proofs.Value.Json

/-!
# What the tree of a document tells

A document's tree leaves out empty lists of edges and a missing scope, and up to three lists stand
behind the attributes without a fixed place. Nothing is lost by that. Every list that is there
stands under its own name and is not empty, so a search for the name finds it, and finds nothing if
it has been left out (`Edge.under_listsToJson`). With that, the parts of a document can be read off
its tree one by one (`Document.toJson_injective`), and so can a conversion's documents with their
tags (`toJson_lossless`). Values hold finite numbers only, by their type.

Where a document was printed, all its parts are read back (`Document.readBack`,
`readBack_listToJson`).
-/

namespace Provision

/-- Tables are told apart by their trees if their values are. -/
theorem Table.toJson_injective {α : Type} {write : α → Json} (hwrite : Function.Injective write) :
    Function.Injective (Table.toJson write) := by
  intro t u h
  have hentry : Function.Injective fun e : String × α => (e.1, write e.2) := by
    intro e e' h
    obtain ⟨hkey, hvalue⟩ := Prod.mk.inj h
    exact Prod.ext hkey (hwrite hvalue)
  exact Table.ext (List.map_injective_iff.2 hentry (Json.obj.inj h))

/-- What stands under a name among some parts: the items of the first part that is an object of this
one member. -/
def Json.under (name : String) : List Json → List Json
  | [] => []
  | .obj [(key, .arr l)] :: parts => if key = name then l else under name parts
  | _ :: parts => under name parts

namespace Edge

variable {name key : String} {l : List Edge} {lists : List (String × List Edge)} {parts : List Json}

/-- Some lists of edges under their names, without those that are empty. -/
def listsToJson (lists : List (String × List Edge)) : List Json :=
  lists.flatMap fun (name, l) => listToJson name l

theorem toJson_injective : Function.Injective Edge.toJson := by
  intro e e' h
  obtain ⟨type, tag⟩ := e
  obtain ⟨type', tag'⟩ := e'
  simp only [toJson, Json.obj.injEq, List.cons.injEq, Prod.mk.injEq, Json.str.injEq, and_true] at h
  obtain ⟨hname, rfl⟩ := h
  rw [Named.name_injective hname]

/-- A list of edges is found under its name; if it has been left out, the search goes on. -/
theorem under_listToJson_self : Json.under name (listToJson name l ++ parts) =
    if l = [] then Json.under name parts else l.map toJson := by
  cases l with
  | nil => rfl
  | cons e l => simp [listToJson, Json.under]

/-- A list of edges that is written under another key is not found. -/
theorem under_listToJson_of_ne (h : key ≠ name) :
    Json.under name (listToJson key l ++ parts) = Json.under name parts := by
  cases l with
  | nil => rfl
  | cons e l => simp [listToJson, Json.under, h]

theorem under_listsToJson_of_forall_ne (h : ∀ e ∈ lists, e.1 ≠ name) :
    Json.under name (listsToJson lists) = [] := by
  induction lists with
  | nil => rfl
  | cons e lists ih =>
    obtain ⟨he, hlists⟩ := List.forall_mem_cons.1 h
    rw [listsToJson, List.flatMap_cons, under_listToJson_of_ne he]
    exact ih hlists

/-- Every list can be found under its name, also the ones that have been left out. -/
theorem under_listsToJson (hnames : (lists.map (·.1)).Nodup) (h : (name, l) ∈ lists) :
    Json.under name (listsToJson lists) = l.map toJson := by
  induction lists with
  | nil => cases h
  | cons e lists ih =>
    obtain ⟨hfirst, hrest⟩ := List.nodup_cons.1 hnames
    rw [listsToJson, List.flatMap_cons]
    rcases List.mem_cons.1 h with rfl | h
    · have hnone : Json.under name (listsToJson lists) = [] :=
        under_listsToJson_of_forall_ne fun e he heq => hfirst (List.mem_map.2 ⟨e, he, heq⟩)
      rw [under_listToJson_self]
      split
      · next hnil => rw [hnil, List.map_nil, ← hnone, listsToJson]
      · rfl
    · have hne : e.1 ≠ name := fun heq => hfirst (List.mem_map.2 ⟨(name, l), h, heq.symm⟩)
      rw [under_listToJson_of_ne hne]
      exact ih hrest h

end Edge

/-- A scope can be told from the members it adds. -/
theorem Scope.toMembers_injective : Function.Injective Scope.toMembers := by
  intro s s' h
  obtain ⟨env, group⟩ := s
  obtain ⟨env', group'⟩ := s'
  simp only [toMembers, List.cons.injEq, Prod.mk.injEq, Json.str.injEq, true_and, and_true] at h
  obtain ⟨rfl, rfl⟩ := h
  rfl

namespace Document

variable {d d' : Document}

/-- The lists of edges of a document, by their names. -/
def edgeLists (d : Document) : List (String × List Edge) :=
  [("require", d.requires), ("require_in", d.requiredBy), ("watch", d.watches)]

/-- The members of a document's tree that tell its scope. -/
def scopeMembers (d : Document) : List (String × Json) := (d.scope.map Scope.toMembers).getD []

/-- A document is one member with its type, and the scope behind it. -/
theorem toJson_eq (d : Document) : d.toJson = .obj ((Named.name d.resourceType,
    .arr (.str d.state :: d.attributes.toJson Value.toJson :: Edge.listsToJson d.edgeLists)) ::
      d.scopeMembers) := by
  simp [toJson, Edge.listsToJson, edgeLists, scopeMembers]

/-- A list of edges is the same in two documents whose trees have the same lists. -/
theorem edges_eq_of_listsToJson_eq {name : String} {l l' : List Edge}
    (h : Edge.listsToJson d.edgeLists = Edge.listsToJson d'.edgeLists)
    (hl : (name, l) ∈ d.edgeLists) (hl' : (name, l') ∈ d'.edgeLists) : l = l' := by
  have hnames : ∀ d : Document, (d.edgeLists.map (·.1)).Nodup := fun d =>
    (by decide : ["require", "require_in", "watch"].Nodup)
  apply List.map_injective_iff.2 Edge.toJson_injective
  rw [← Edge.under_listsToJson (hnames d) hl, h, Edge.under_listsToJson (hnames d') hl']

/-- Documents with the same members for the scope have the same scope, or both none. -/
theorem scope_eq_of_scopeMembers_eq (h : d.scopeMembers = d'.scopeMembers) :
    d.scope = d'.scope := by
  unfold scopeMembers at h
  cases hs : d.scope with
  | none =>
    cases hs' : d'.scope with
    | none => rfl
    | some s' =>
      rw [hs, hs'] at h
      cases h
  | some s =>
    cases hs' : d'.scope with
    | none =>
      rw [hs, hs'] at h
      cases h
    | some s' =>
      rw [hs, hs'] at h
      exact congrArg some (Scope.toMembers_injective h)

/-- No two documents are written as one object: type, state, attributes, each list of edges and the
scope have places of their own. -/
theorem toJson_injective : Function.Injective Document.toJson := by
  intro d d' h
  rw [toJson_eq, toJson_eq] at h
  obtain ⟨hfirst, hscope⟩ := List.cons.inj (Json.obj.inj h)
  obtain ⟨htype, hparts⟩ := Prod.mk.inj hfirst
  obtain ⟨hstate, hrest⟩ := List.cons.inj (Json.arr.inj hparts)
  obtain ⟨hattributes, hlists⟩ := List.cons.inj hrest
  have hrequires : d.requires = d'.requires :=
    edges_eq_of_listsToJson_eq hlists (.head _) (.head _)
  have hrequiredBy : d.requiredBy = d'.requiredBy :=
    edges_eq_of_listsToJson_eq hlists (.tail _ (.head _)) (.tail _ (.head _))
  have hwatches : d.watches = d'.watches :=
    edges_eq_of_listsToJson_eq hlists (.tail _ (.tail _ (.head _))) (.tail _ (.tail _ (.head _)))
  have hvalues : d.attributes = d'.attributes :=
    Table.toJson_injective (fun _ _ => Value.toJson_inj.1) hattributes
  have hscopes : d.scope = d'.scope := scope_eq_of_scopeMembers_eq hscope
  cases d
  cases d'
  cases Named.name_injective htype
  cases Json.str.inj hstate
  cases hvalues
  cases hrequires
  cases hrequiredBy
  cases hwatches
  cases hscopes
  rfl

end Document

namespace DocumentMap

theorem toJson_injective : Function.Injective DocumentMap.toJson :=
  Table.toJson_injective Document.toJson_injective

/-- Documents with one tree are one document, and conversions with one tree have given the same
documents under the same tags. -/
theorem toJson_lossless : (∀ d d' : Document, d.toJson = d'.toJson ↔ d = d') ∧
    ∀ maps maps' : List DocumentMap, listToJson maps = listToJson maps' ↔ maps = maps' := by
  refine ⟨fun d d' => Document.toJson_injective.eq_iff, fun maps maps' => ?_⟩
  unfold listToJson
  rw [Json.arr.injEq, (List.map_injective_iff.2 toJson_injective).eq_iff]

end DocumentMap

/-! ## Printing -/

/-- What is read where an edge was printed. -/
def Edge.readBack (e : Edge) : Json.Source := .obj [(some (Named.name e.resourceType), .str e.tag)]

/-- What is read where lists of edges were printed: each that is not empty, under its name. -/
def Edge.listsReadBack (lists : List (String × List Edge)) : List Json.Source :=
  (lists.filter fun e => e.2 ≠ []).map fun e => .obj [(some e.1, .arr (e.2.map Edge.readBack))]

/-- The members that are read where a scope was printed. -/
def Scope.readBack (s : Scope) : List (Option String × Json.Source) :=
  [(some "__env__", .str s.env), (some "__sls__", .str s.group)]

/-- What is read where a document was printed, with so many lists and mappings allowed inside a
value. -/
def Document.readBack (room : Nat) (d : Document) : Json.Source :=
  .obj ((some (Named.name d.resourceType), .arr (.str d.state ::
      .obj (d.attributes.entries.map fun e => (some e.1, e.2.readBack room)) ::
      Edge.listsReadBack d.edgeLists)) ::
    (d.scope.map Scope.readBack).getD [])

/-- What is read where a map of documents was printed: each under its tag. -/
def DocumentMap.readBack (room : Nat) (m : DocumentMap) : Json.Source :=
  .obj (m.entries.map fun e => (some e.1, e.2.readBack room))

section

variable {room : Nat}

theorem Edge.readBack_listToJson (name : String) (l : List Edge) :
    (Edge.listToJson name l).map (Json.readBack (room + 3)) = Edge.listsReadBack [(name, l)] := by
  unfold Edge.listToJson
  cases l with
  | nil => rfl
  | cons e l => simp [Edge.listsReadBack, Edge.toJson, Edge.readBack]

/-- Lists that are empty are neither written nor read. -/
theorem Edge.readBack_listsToJson (lists : List (String × List Edge)) :
    (Edge.listsToJson lists).map (Json.readBack (room + 3)) = Edge.listsReadBack lists := by
  induction lists with
  | nil => rfl
  | cons e lists ih =>
    have hfirst : listsReadBack (e :: lists) = listsReadBack [e] ++ listsReadBack lists := by
      unfold listsReadBack
      rw [← List.map_append, ← List.filter_append, List.singleton_append]
    rw [hfirst, ← ih, listsToJson, List.flatMap_cons, List.map_append, readBack_listToJson]
    rfl

/-- A document is read back as its type with a state, attributes, edges and scope; its values stand
three deeper. -/
theorem Document.readBack_toJson (d : Document) :
    d.toJson.readBack (room + 5) = d.readBack (room + 2) := by
  have hattributes : (d.attributes.toJson Value.toJson).readBack (room + 3) =
      .obj (d.attributes.entries.map fun e => (some e.1, e.2.readBack (room + 2))) := by
    simp [Table.toJson, Value.readBack_toJson]
  have hscope : d.scopeMembers.map (fun m => (some m.1, m.2.readBack (room + 4))) =
      (d.scope.map Scope.readBack).getD [] := by
    unfold scopeMembers
    cases d.scope <;> rfl
  rw [toJson_eq, Json.readBack_obj, List.map_cons, hscope, Json.readBack_arr, List.map_cons,
    List.map_cons, hattributes, Edge.readBack_listsToJson]
  rfl

/-- Where the maps of a conversion were printed, all their documents are read. -/
theorem DocumentMap.readBack_listToJson (maps : List DocumentMap) :
    (listToJson maps).readBack (room + 7) = .arr (maps.map (readBack (room + 2))) := by
  simp [listToJson, toJson, Table.toJson, readBack, Document.readBack_toJson]

end

end Provision
