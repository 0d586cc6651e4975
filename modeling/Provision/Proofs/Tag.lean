import Provision.Tag
import Provision.Trigger

/-!
# What a tag tells apart

The parts of a tag are joined with underscores and may hold underscores themselves, so a tag does
not say where one part ends: different modules, or different steps, can have one tag. The state
comes last, though, with the same text before it for all states of a step's module. So the tags of
one step's module tell its states apart, also the empty one, which leaves no part behind. A
trigger's tag is that of a state which says that it is one (`Trigger.tag_eq_stepTag`).
-/

namespace Provision

/-- What the state adds to a tag. -/
def stateSuffix (state : String) : String := if state = "" then "" else "_" ++ state

/-- No two states are written as one suffix, since only the empty one has none. -/
theorem stateSuffix_injective {a b : String} (h : stateSuffix a = stateSuffix b) : a = b := by
  unfold stateSuffix at h
  by_cases ha : a = "" <;> by_cases hb : b = ""
  · rw [ha, hb]
  · rw [if_pos ha, if_neg hb] at h
    exact absurd h.symm (by simp [String.append_eq_empty_iff])
  · rw [if_neg ha, if_pos hb] at h
    exact absurd h (by simp [String.append_eq_empty_iff])
  · rw [if_neg ha, if_neg hb] at h
    exact (String.append_right_inj "_").1 h

/-- What the step adds to a tag. -/
def stepPrefix (step : String) : String := if step = "" then "_" else "_" ++ step ++ "_"

/-- An underscore stands between the step and what comes after it. -/
theorem stepPrefix_eq (step : String) : stepPrefix step = stateSuffix step ++ "_" := by
  unfold stepPrefix stateSuffix
  by_cases h : step = ""
  · rw [if_pos h, if_pos h]
    rfl
  · rw [if_neg h, if_neg h]

theorem stepTag_empty_state (module step : String) :
    stepTag module step "" = stepPrefix step ++ moduleTag module := by
  unfold stepTag makeTag stepPrefix
  by_cases h : step = ""
  · rw [if_pos h, h]
    simp [givenParts]
  · rw [if_neg h]
    simp [givenParts, Option.filter, h, String.append_assoc]

/-- The state's part stands at the end of the tag. -/
theorem stepTag_eq (module step state : String) :
    stepTag module step state = stepTag module step "" ++ stateSuffix state := by
  have hempty : givenParts [none, some ""] = [] := by simp [givenParts]
  unfold stepTag makeTag stateSuffix
  by_cases h : state = ""
  · rw [if_pos h, h, String.append_empty]
  · have hstate : givenParts [none, some state] = [state] := by simp [givenParts, Option.filter, h]
    have hsplit : givenParts [none, some step] ++ moduleTag module :: [state]
        = (givenParts [none, some step] ++ [moduleTag module]) ++ [state] := by
      rw [List.append_assoc]
      rfl
    rw [if_neg h, hempty, hstate, hsplit,
      String.intercalate_append_of_ne_nil (by simp) (by simp), String.intercalate_singleton]
    simp only [String.append_assoc]

/-- Whatever the step is, a tag ends in the module and the state. -/
theorem suffix_stepTag (module step state : String) :
    (moduleTag module ++ stateSuffix state).toList <:+ (stepTag module step state).toList := by
  rw [stepTag_eq, stepTag_empty_state, String.append_assoc,
    String.toList_append (s := stepPrefix step)]
  exact List.suffix_append _ _

/-- Two states of a module have two tags. -/
theorem stepTag_injective {module step a b : String}
    (h : stepTag module step a = stepTag module step b) :
    a = b := by
  rw [stepTag_eq module step a, stepTag_eq module step b] at h
  exact stateSuffix_injective ((String.append_right_inj _).1 h)

/-- The tag of a trigger is that of a state, whatever state the triggered module is in. -/
theorem Trigger.tag_eq_stepTag (module step state : String) :
    Trigger.tag module step state = stepTag module step ("require_in" ++ stateSuffix state) := by
  unfold Trigger.tag stepTag makeTag stateSuffix
  by_cases h : state = ""
  · have hname : givenParts [some "require_in", some state] = ["require_in"] := by
      simp [givenParts, Option.filter, h]
    rw [if_pos h, hname]
    rfl
  · have hstate : "require_in" ++ ("_" ++ state) ≠ "" := fun he =>
      absurd (String.append_eq_empty_iff.1 he).1 (by decide)
    have hname : givenParts [some "require_in", some state] = ["require_in", state] := by
      simp [givenParts, Option.filter, h]
    have hjoined : givenParts [none, some ("require_in" ++ ("_" ++ state))] =
        ["require_in" ++ ("_" ++ state)] := by
      simp [givenParts, Option.filter, hstate]
    -- the name and the state are joined like one part
    have hsplit : ∀ l : List String, l ≠ [] →
        "_".intercalate (givenParts [none, some step] ++ moduleTag module :: l) =
          "_".intercalate (givenParts [none, some step] ++ [moduleTag module]) ++ "_" ++
            "_".intercalate l := by
      intro l hl
      rw [← String.intercalate_append_of_ne_nil (by simp) hl, List.append_assoc]
      rfl
    rw [if_neg h, hname, hjoined, hsplit _ (List.cons_ne_nil _ _), hsplit _ (List.cons_ne_nil _ _),
      String.intercalate_singleton, String.intercalate_cons_cons, String.intercalate_singleton]
    simp only [String.append_assoc]

end Provision
