import Mathlib.Data.List.Chain
import Mathlib.Data.List.Nodup
import Mathlib.Logic.Relation
import Provision.Registry.Check

/-!
# The search for circles

A search either comes to a circle of requirements or finds that following requirements from its
modules comes to an end on every way. Both rest on an invariant. For the circle it is the path: it
holds no module twice, and each module on it lists the next one, so the part of it behind a module
that is met again is a circle (`circle_of_mem`). For the end it is the list of modules that are
done: of each of them it is known already, so a search may stop at them whatever its own path is.
`search_explored` proves both at once, along the two functions of the search. That the search ends
by itself is `wellFounded_calls`, which asks nothing of the registry: a search looks at no other
searches than those that it calls (`searchStep_congr`), and calls come to an end. So the equation of
the search has one solution (`eq_visit_iff`).
-/

namespace Provision.Registry

open Relation

variable {r : Registry} {path done : List String} {m x : String} {s : Schema}

/-- One module lists the other among its requirements. -/
def Requires (r : Registry) (m x : String) : Prop :=
  ∃ s, r.get? m = some s ∧ x ∈ s.requires.map (·.module)

/-- Following requirements from a module comes to an end, whichever are followed. -/
def Ends (r : Registry) (m : String) : Prop := Acc (fun x m => r.Requires m x) m

/-- Modules that require each other in a circle, each the next one. -/
structure Circle (r : Registry) (path : List String) : Prop where
  /-- There is at least one requirement. -/
  long : 2 ≤ path.length
  /-- The last module is the first one. -/
  closed : path.head? = path.getLast?
  /-- Nothing else stands there twice. -/
  distinct : path.dropLast.Nodup
  /-- Each module lists the next one. -/
  linked : path.IsChain r.Requires

theorem requires_of_get? (h : r.get? m = some s) :
    r.Requires m x ↔ x ∈ s.requires.map (·.module) := by
  unfold Requires
  rw [h]
  simp

/-- One search without the bound that makes it end. -/
theorem visit_eq (r : Registry) (path done : List String) (m : String) : r.visit path done m =
    if m ∈ done then .ok done
    else if m ∈ path then .error (.cycle (path.dropWhile (· ≠ m) ++ [m]))
    else
      match r.get? m with
      | none => .ok (m :: done)
      | some s => (r.visitAll (path ++ [m]) done (s.requires.map (·.module))).map (m :: ·) := by
  rw [visit]
  split
  · rfl
  · split
    · rfl
    · split <;> (rename_i h; simp only [h])

/-! ## Ends and circles -/

theorem Ends.of_requires (h : ∀ x, r.Requires m x → r.Ends x) : r.Ends m := Acc.intro m h

/-- From where requirements come to an end they do not come back. -/
theorem Ends.not_transGen (h : r.Ends m) : ¬ TransGen r.Requires m m := by
  induction h with
  | intro m _ ih =>
    intro hcycle
    obtain ⟨x, hx, hback⟩ := TransGen.head'_iff.1 hcycle
    -- the first module on the way round comes back to itself as well
    exact ih x hx (TransGen.tail' hback hx)

/-- Whoever stands first on a circle requires itself by way of the others. -/
theorem Circle.exists_transGen (h : r.Circle path) : ∃ m, TransGen r.Requires m m := by
  obtain ⟨hlong, hclosed, -, hlinked⟩ := h
  match path with
  | [] => exact absurd hlong (by decide)
  | [_] => exact absurd hlong (by decide : ¬ 2 ≤ 1)
  | m :: x :: rest =>
    obtain ⟨hfirst, hrest⟩ := List.isChain_cons_cons.1 hlinked
    have hlast : (x :: rest).getLast (List.cons_ne_nil x rest) = m := by
      rw [List.head?_cons, List.getLast?_cons_cons,
        List.getLast?_eq_some_getLast (List.cons_ne_nil x rest)]
        at hclosed
      exact (Option.some.inj hclosed).symm
    have hback :=
      List.relationReflTransGen_of_exists_isChain (x :: rest) hrest (List.cons_ne_nil x rest)
    rw [hlast] at hback
    exact ⟨m, TransGen.head' hfirst hback⟩

/-- The part of a path behind a module that is met again is a circle. -/
theorem circle_of_mem (hpath : path.Nodup) (hlinked : (path ++ [m]).IsChain r.Requires)
    (hm : m ∈ path) :
    r.Circle (path.dropWhile (· ≠ m) ++ [m]) := by
  obtain ⟨before, after, rfl⟩ := List.append_of_mem hm
  have hbefore : ∀ x ∈ before, decide (x ≠ m) = true := fun x hx =>
    decide_eq_true ((List.nodup_append.1 hpath).2.2 x hx m (List.mem_cons_self ..))
  have hdrop : (before ++ m :: after).dropWhile (· ≠ m) = m :: after := by
    rw [List.dropWhile_append_of_pos hbefore, List.dropWhile_cons_of_neg (by simp)]
  rw [hdrop]
  rw [List.append_assoc] at hlinked
  refine ⟨by simp, ?_, ?_, hlinked.suffix (List.suffix_append _ _)⟩
  · rw [List.getLast?_concat]
    rfl
  · rw [List.dropLast_concat]
    exact hpath.sublist (List.sublist_append_right _ _)

/-! ## Both searches -/

/-- What a search results in: modules from which requirements come to an end, those known before and
those asked for among them, or else a circle. -/
def Explored (r : Registry) (done targets : List String) : Except RegistryError (List String) → Prop
  | .ok found => (∀ x ∈ found, r.Ends x) ∧ done ⊆ found ∧ targets ⊆ found
  | .error e => ∃ path, e = .cycle path ∧ r.Circle path

theorem ends_of_get?_eq_none (h : r.get? m = none) : r.Ends m := by
  refine .of_requires fun x hx => ?_
  obtain ⟨s, hs, -⟩ := hx
  rw [h] at hs
  cases hs

/-- A module is done when the modules are that it requires. -/
theorem Explored.cons {result : Except RegistryError (List String)} (hs : r.get? m = some s)
    (h : r.Explored done (s.requires.map (·.module)) result) :
    r.Explored done [m] (result.map (m :: ·)) := by
  cases result with
  | error e => exact h
  | ok found =>
    obtain ⟨hfound, hdone, hrequired⟩ := h
    have hends : r.Ends m :=
      .of_requires fun x hx => hfound x (hrequired ((requires_of_get? hs).1 hx))
    exact ⟨List.forall_mem_cons.2 ⟨hends, hfound⟩,
      List.Subset.trans hdone (List.subset_cons_self _ _), by simp⟩

/-- Modules are done when the first one is and then the others are. -/
theorem Explored.append {found rest : List String} {result : Except RegistryError (List String)}
    (h : r.Explored done [m] (.ok found)) (hrest : r.Explored found rest result) :
    r.Explored done (m :: rest) result := by
  cases result with
  | error e => exact hrest
  | ok found' =>
    obtain ⟨-, hdone, hm⟩ := h
    obtain ⟨hfound', hfound, hothers⟩ := hrest
    exact ⟨hfound', List.Subset.trans hdone hfound,
      List.cons_subset.2 ⟨hfound (hm (List.mem_singleton_self m)), hothers⟩⟩

/-- A path is linked on to whatever its last module requires. -/
theorem isChain_concat_of_requires (hlinked : (path ++ [m]).IsChain r.Requires)
    (hx : r.Requires m x) :
    (path ++ [m] ++ [x]).IsChain r.Requires := by
  refine List.isChain_append.2 ⟨hlinked, List.isChain_singleton x, ?_⟩
  rw [List.getLast?_concat]
  simpa using hx

/-- Along the two functions of the search: the path is linked up to the module that is looked at. -/
theorem search_explored (r : Registry) :
    (∀ path done m, (∀ x ∈ done, r.Ends x) → path.Nodup → (path ++ [m]).IsChain r.Requires →
      r.Explored done [m] (r.visit path done m)) ∧
    ∀ path done l, (∀ x ∈ done, r.Ends x) → path.Nodup →
      (∀ x ∈ l, (path ++ [x]).IsChain r.Requires) →
      r.Explored done l (r.visitAll path done l) := by
  apply visit.mutual_induct
  case case1 => -- the module is done
    intro path done m hm hdone _ _
    rw [visit_eq, if_pos hm]
    exact ⟨hdone, List.Subset.refl _, by simpa using hm⟩
  case case2 => -- the module is on the path
    intro path done m hm hp _ hpath hlinked
    rw [visit_eq, if_neg hm, if_pos hp]
    exact ⟨_, rfl, circle_of_mem hpath hlinked hp⟩
  case case3 => -- the module is not registered
    intro path done m hm hp hget hdone _ _
    rw [visit_eq, if_neg hm, if_neg hp, hget]
    exact ⟨List.forall_mem_cons.2 ⟨ends_of_get?_eq_none hget, hdone⟩,
      List.subset_cons_self _ _, by simp⟩
  case case4 => -- the search goes on with what the module requires
    intro path done m hm hp s hs _ ih hdone hpath hlinked
    have hnodup : (path ++ [m]).Nodup :=
      hpath.append (List.nodup_singleton m) (List.disjoint_singleton.2 hp)
    have hrest := ih hdone hnodup fun x hx =>
      isChain_concat_of_requires hlinked ((requires_of_get? hs).2 hx)
    rw [visit_eq, if_neg hm, if_neg hp, hs]
    exact hrest.cons hs
  case case5 => -- no module is left
    intro path done hdone _ _
    rw [visitAll]
    exact ⟨hdone, List.Subset.refl _, List.nil_subset _⟩
  case case6 => -- the first module is found to be done
    intro path done m rest found hvisit ih ihrest hdone hpath hlinked
    obtain ⟨hm, hrest⟩ := List.forall_mem_cons.1 hlinked
    have hfirst := ih hdone hpath hm
    rw [hvisit] at hfirst
    rw [visitAll, hvisit]
    exact hfirst.append (ihrest hfirst.1 hpath hrest)
  case case7 => -- the first module leads to a circle
    intro path done m rest e hvisit ih hdone hpath hlinked
    have hfirst := ih hdone hpath (hlinked m (List.mem_cons_self ..))
    rw [hvisit] at hfirst
    rw [visitAll, hvisit]
    exact hfirst

/-- The search from all modules, which is where a check begins. -/
theorem visitAll_explored (r : Registry) (l : List String) : r.Explored [] l (r.visitAll [] [] l) :=
  (search_explored r).2 [] [] l (by simp) List.nodup_nil (by simp)

/-! ## Its end -/

/-- A search from a module, with the path to it, searches from a module that is required. -/
inductive Calls (r : Registry) : List String × String → List String × String → Prop
  | required {path : List String} {m : String} {s : Schema} {p : Prerequisite} (hp : m ∉ path)
      (hs : r.get? m = some s) (hreq : p ∈ s.requires) : Calls r (path, m) (path ++ [m], p.module)

/-- No search goes deeper and deeper, whatever the modules require of each other. -/
theorem wellFounded_calls (r : Registry) : WellFounded fun inner outer => r.Calls outer inner := by
  refine Subrelation.wf ?_ (measure fun search : List String × String =>
    (r.offPath search.1).length).wf
  intro inner outer hcalls
  cases hcalls with
  | required hp hs _ => exact length_offPath_lt hs hp

/-- One search, given what the searches inside it come to. -/
def searchStep (r : Registry)
    (search : List String → List String → String → Except RegistryError (List String))
    (path done : List String) (m : String) : Except RegistryError (List String) :=
  if m ∈ done then .ok done
  else if m ∈ path then .error (.cycle (path.dropWhile (· ≠ m) ++ [m]))
  else
    match r.get? m with
    | none => .ok (m :: done)
    | some s =>
      (s.requires.foldlM (fun done p => search (path ++ [m]) done p.module) done).map (m :: ·)

/-- Searching from the modules of prerequisites is a fold over these. -/
theorem visitAll_map_module (path done : List String) (l : List Prerequisite) :
    r.visitAll path done (l.map (·.module)) = l.foldlM
      (fun done p => r.visit path done p.module) done := by
  induction l generalizing done with
  | nil =>
    rw [List.map_nil, visitAll]
    rfl
  | cons p l ih =>
    rw [List.map_cons, visitAll, List.foldlM_cons]
    cases r.visit path done p.module with
    | ok found => exact ih found
    | error e => rfl

/-- The search does at every module what one search does. -/
theorem visit_eq_searchStep (path done : List String) (m : String) :
    r.visit path done m = r.searchStep r.visit path done m := by
  rw [visit_eq]
  unfold searchStep
  cases r.get? m with
  | none => rfl
  | some s =>
    dsimp only
    rw [visitAll_map_module]

/-- A search looks at the searches that it calls and at no others. -/
theorem searchStep_congr {search search' : List String → List String → String → Except RegistryError
    (List String)} (h :
    ∀ inner, r.Calls (path, m) inner →
      ∀ done, search inner.1 done inner.2 = search' inner.1 done inner.2) :
    r.searchStep search path done m = r.searchStep search' path done m := by
  unfold searchStep
  split
  · rfl
  split
  · rfl
  next hp =>
  split
  · rfl
  · next s hs =>
    have hfold : ∀ l : List Prerequisite, (∀ p ∈ l, p ∈ s.requires) → ∀ done,
        l.foldlM (fun done p => search (path ++ [m]) done p.module) done =
          l.foldlM (fun done p => search' (path ++ [m]) done p.module) done := by
      intro l hl
      induction l with
      | nil => exact fun _ => rfl
      | cons p l ih =>
        intro done
        obtain ⟨hfirst, hrest⟩ := List.forall_mem_cons.1 hl
        rw [List.foldlM_cons, List.foldlM_cons, h _ (.required hp hs hfirst) done]
        exact congrArg _ (funext fun found => ih hrest found)
    rw [hfold s.requires (fun _ hmem => hmem)]

/-- Whatever does at every module what one search does is the search. -/
theorem eq_visit_iff {search : List String → List String → String → Except RegistryError
    (List String)} :
    search = r.visit ↔ ∀ path done m, search path done m = r.searchStep search path done m := by
  constructor
  · intro h
    rw [h]
    exact visit_eq_searchStep
  · intro h
    have hall : ∀ place : List String × String, ∀ done,
        search place.1 done place.2 = r.visit place.1 done place.2 := by
      intro place
      -- along the calls, which come to an end on every registry
      induction place using (wellFounded_calls r).induction with
      | _ place ih =>
        obtain ⟨path, m⟩ := place
        intro done
        rw [h, visit_eq_searchStep]
        exact searchStep_congr ih
    exact funext fun path => funext fun done => funext fun m => hall (path, m) done

end Provision.Registry
