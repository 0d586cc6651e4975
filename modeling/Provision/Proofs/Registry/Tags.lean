import Mathlib.Data.List.Infix
import Provision.Proofs.Registry.Standard
import Provision.Proofs.Tag
import Provision.Trigger

/-!
# Tags of the standard modules

In general a tag does not tell where the step ends and where the module begins. For the standard
modules it does, whatever the step is. Their ids begin with one of two roots, and what a module and
a state add to a tag has a root at its beginning and none behind it: so the module begins where the
last root does (`Rooted.eq_of_suffix`). And no module's part of a tag is the beginning of another
module's part, so it is clear where the state begins. Two steps of standard modules have the same
tag only if they are the same in everything (`eq_of_stepTag_eq`). The tag of a trigger is that of a
state which no standard module declares (`Trigger.tag_eq`), and it is told apart from the others in
the same way.
-/

namespace Provision

/-! ## Where the module begins -/

/-- What a module adds to a tag, with the underscores around it. -/
def modulePart (module : String) : List Char :=
  '_' :: module.toList.map (fun c => if c = '.' then '_' else c) ++ ['_']

/-- A tag is the suffix of the step with module and state behind it. -/
theorem toList_stepTag {state : String} (h : state ≠ "") (module step : String) :
    (stepTag module step state).toList =
      (stateSuffix step).toList ++ (modulePart module ++ state.toList) := by
  have hstate : stateSuffix state = "_" ++ state := if_neg h
  rw [stepTag_eq, stepTag_empty_state, stepPrefix_eq, hstate]
  simp [modulePart, moduleTag, String.toList_append]

theorem Trigger.tag_eq {state : String} (h : state ≠ "") (module step : String) :
    Trigger.tag module step state = stepTag module step ("require_in_" ++ state) := by
  have hstate : stateSuffix state = "_" ++ state := if_neg h
  have hjoin : "require_in" ++ "_" = "require_in_" := by decide
  rw [tag_eq_stepTag, hstate, ← String.append_assoc, hjoin]

/-- What the parts of a tag begin with that come from standard modules. -/
def roots : List (List Char) :=
  [['_', 'l', 'i', 'n', 'u', 'x', '_'], ['_', 'c', 'o', 'm', 'm', 'o', 'n', '_']]

/-- A text with a root at its beginning and nowhere else. -/
def Rooted (t : List Char) : Prop :=
  (∃ root ∈ roots, root <+: t) ∧ ∀ rest ∈ t.tails.tail, ∀ root ∈ roots, ¬ root <+: rest

instance (t : List Char) : Decidable (Rooted t) := inferInstanceAs (Decidable (_ ∧ _))

/-- Of the two ends of a text the longer one has the root of the shorter one inside. -/
theorem Rooted.eq_of_suffix_self {a b : List Char} (ha : Rooted a) (hb : Rooted b) (h : a <:+ b) :
    a = b := by
  obtain ⟨⟨root, hroot, hprefix⟩, -⟩ := ha
  cases b with
  | nil => exact List.suffix_nil.1 h
  | cons ch rest =>
    rcases List.suffix_cons_iff.1 h with heq | hinside
    · exact heq
    · exact absurd hprefix (hb.2 a ((List.mem_tails _ _).2 hinside) root hroot)

/-- Of two such ends of one tag none can be longer. -/
theorem Rooted.eq_of_suffix {a b t : List Char} (ha : Rooted a) (hb : Rooted b) (hat : a <:+ t)
    (hbt : b <:+ t) : a = b := by
  rcases List.suffix_or_suffix_of_suffix hat hbt with h | h
  · exact ha.eq_of_suffix_self hb h
  · exact (hb.eq_of_suffix_self ha h).symm

/-! ## The standard modules -/

/-- The state that the tag of a trigger looks like. -/
def triggerState : String := "require_in_run"

/-- The states of a module and the one that the tag of a trigger looks like. -/
def Schema.tagStates (s : Schema) : List String := triggerState :: s.states

/-- Module and state of a standard module make an end of that kind. -/
theorem rooted_of_mem {s : Schema} (hs : s ∈ standardSchemas) {state : String}
    (h : state ∈ s.tagStates) :
    state ≠ "" ∧ Rooted (modulePart s.id ++ state.toList) := by
  have hall : ∀ s ∈ standardSchemas, ∀ state ∈ s.tagStates,
      state ≠ "" ∧ Rooted (modulePart s.id ++ state.toList) := by
    decide +kernel
  exact hall s hs state h

/-- No module's part of a tag is the beginning of another module's part. -/
theorem eq_of_modulePart_begins {s s' : Schema} (hs : s ∈ standardSchemas)
    (hs' : s' ∈ standardSchemas) (h : modulePart s.id <+: modulePart s'.id) : s = s' := by
  have hall : ∀ s ∈ standardSchemas, ∀ s' ∈ standardSchemas,
      modulePart s.id <+: modulePart s'.id → s.id = s'.id := by
    decide +kernel
  have hget := Registry.get?_standard_of_mem hs
  rw [hall s hs s' hs' h, Registry.get?_standard_of_mem hs'] at hget
  exact (Option.some.inj hget).symm

/-- No standard module declares the state of triggers. -/
theorem triggerState_not_mem {s : Schema} (hs : s ∈ standardSchemas) : triggerState ∉ s.states := by
  have hall : ∀ s ∈ standardSchemas, triggerState ∉ s.states := by decide +kernel
  exact hall s hs

/-- The tag of a standard module's document tells the step, the module and the state, whatever the
step is. -/
theorem eq_of_stepTag_eq {s s' : Schema} (hs : s ∈ standardSchemas) (hs' : s' ∈ standardSchemas)
    {state state' : String} (hstate : state ∈ s.tagStates) (hstate' : state' ∈ s'.tagStates)
    {step step' : String} (h : stepTag s.id step state = stepTag s'.id step' state') :
    step = step' ∧ s = s' ∧ state = state' := by
  obtain ⟨hne, hrooted⟩ := rooted_of_mem hs hstate
  obtain ⟨hne', hrooted'⟩ := rooted_of_mem hs' hstate'
  have htags := congrArg String.toList h
  rw [toList_stepTag hne, toList_stepTag hne'] at htags
  -- both ends begin at the last root of one text
  have hends : modulePart s.id ++ state.toList = modulePart s'.id ++ state'.toList := by
    refine hrooted.eq_of_suffix hrooted' (List.suffix_append (stateSuffix step).toList _) ?_
    rw [htags]
    exact List.suffix_append _ _
  have hstep : step = step' := by
    rw [hends] at htags
    exact stateSuffix_injective (String.toList_injective (List.append_cancel_right htags))
  have hmodule : s = s' := by
    rcases List.prefix_or_prefix_of_prefix (List.prefix_append (modulePart s.id) state.toList)
      (hends ▸ List.prefix_append (modulePart s'.id) state'.toList) with hprefix | hprefix
    · exact eq_of_modulePart_begins hs hs' hprefix
    · exact (eq_of_modulePart_begins hs' hs hprefix).symm
  subst hmodule
  exact ⟨hstep, rfl, String.toList_injective (List.append_cancel_left hends)⟩

end Provision
