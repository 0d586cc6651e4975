/-!
# Named alternatives

Platforms, package managers, resource types and the like are closed lists of alternatives, each with
one name. `Named` holds the list in its order and the names, and that searching the list for a
member's name finds that member: so the list is complete and no name stands for two members. Reading
a name is the inverse of writing it (`Named.ofName?_eq_some_iff`).
-/

namespace Provision

/-- A type with a list of all its members, each with a name of its own. -/
class Named (α : Type) where
  /-- All members, in their order. -/
  all : List α
  /-- The name of a member. -/
  name : α → String
  /-- The first member with a member's name is that member. -/
  find_name : ∀ a, all.find? (fun b => name b == name a) = some a := by intro a; cases a <;> rfl

namespace Named

variable {α : Type} [Named α]

/-- The member with a name. -/
def ofName? (s : String) : Option α := all.find? fun a => name a == s

/-- A text is the name of at most one member, and is read as that one. -/
theorem ofName?_eq_some_iff {s : String} {a : α} : ofName? s = some a ↔ name a = s := by
  constructor
  · intro h
    simpa using List.find?_some h
  · rintro rfl
    exact find_name a

theorem mem_all (a : α) : a ∈ all := List.mem_of_find?_eq_some (find_name a)

/-- No two members have one name. -/
theorem name_injective {a b : α} (h : name a = name b) : a = b :=
  Option.some.inj ((ofName?_eq_some_iff.2 rfl).symm.trans (ofName?_eq_some_iff.2 h.symm))

end Named

end Provision
