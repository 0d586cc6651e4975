import Mathlib.Data.List.DropRight
import Mathlib.Data.List.Infix
import Provision.Pin

/-!
# Writing and reading pins

A pin is written as a package, two equals signs and a version, and read by looking for the first two
equals signs. `splitPin_eq_some_iff` says when that gives back what was written: if the package has
the separator neither in it nor across its end, for a package that ends in an equals sign makes the
separator begin one character early. The version can be any text. White space around both parts is
dropped, and a pin with a blank part is none (`Pin.ofEntry_eq_ok_iff`).
-/

namespace Provision

namespace Text

variable {cs : List Char}

/-- Trimming leaves nothing of a text of white space, and something of every other. -/
theorem trim_eq_nil_iff : trim cs = [] ↔ isBlankText cs = true := by
  have htrim : trim cs = (cs.dropWhile isBlank).rdropWhile isBlank := rfl
  rw [htrim, List.rdropWhile_eq_nil_iff, isBlankText, List.all_eq_true]
  constructor
  · intro h c hc
    rw [← List.takeWhile_append_dropWhile (p := isBlank) (l := cs)] at hc
    rcases List.mem_append.1 hc with hc | hc
    · exact List.mem_takeWhile_imp hc
    · exact h c hc
  · intro h c hc
    exact h c ((List.dropWhile_suffix isBlank).subset hc)

end Text

variable {cs package version : List Char}

/-- What stands between a package and its version. -/
def pinSeparator : List Char := ['=', '=']

/-- A text is not split if there are no two equals signs in it. -/
theorem splitPin_eq_none_iff : splitPin cs = none ↔ ¬ pinSeparator <:+: cs := by
  fun_induction splitPin cs with
  | case1 version =>
    have hsplit : pinSeparator <:+: '=' :: '=' :: version :=
      (List.prefix_append pinSeparator version).isInfix
    simp [hsplit]
  | case2 c cs hne ih =>
    -- this case is left only if the text does not begin with the separator
    rw [Option.map_eq_none_iff, ih, List.infix_cons_iff, not_or, iff_and_self]
    intro _ hstart
    obtain ⟨rest, hrest⟩ := hstart
    obtain ⟨hc, hcs⟩ := List.cons.inj hrest
    exact hne rest hc.symm hcs.symm
  | case3 => simp [pinSeparator]

/-- Behind a package the separator begins with its first sign, so it does not begin earlier. -/
theorem not_pinSeparator_infix_cons_iff (version : List Char) {c : Char} :
    ¬ pinSeparator <:+: c :: package ++ ['='] ↔
      (∀ rest, c = '=' → package ++ pinSeparator ++ version = '=' :: rest → False) ∧
        ¬ pinSeparator <:+: package ++ ['='] := by
  have hstart : pinSeparator <+: c :: package ++ ['='] ↔
      c = '=' ∧ ∃ rest, package ++ pinSeparator ++ version = '=' :: rest := by
    unfold pinSeparator
    cases package <;> simp [eq_comm]
  rw [List.cons_append, List.infix_cons_iff, not_or, ← List.cons_append, hstart]
  refine and_congr_left fun _ => ?_
  simp only [not_and, not_exists]
  exact ⟨fun h rest hc heq => h hc rest heq, fun h hc rest heq => h rest hc heq⟩

/-- The first separator is where a pin is split. -/
theorem splitPin_eq_some_iff : splitPin cs = some (package, version) ↔
    cs = package ++ pinSeparator ++ version ∧ ¬ pinSeparator <:+: package ++ ['='] := by
  constructor
  · -- on the recursion: what is passed over is what the package begins with
    intro h
    fun_induction splitPin cs generalizing package with
    | case1 version' =>
      cases h
      exact ⟨rfl, by decide⟩
    | case2 c cs hne ih =>
      obtain ⟨⟨package', version'⟩, hsplit, heq⟩ := Option.map_eq_some_iff.1 h
      cases heq
      obtain ⟨rfl, hclear⟩ := ih hsplit
      exact ⟨rfl, (not_pinSeparator_infix_cons_iff version).2 ⟨hne, hclear⟩⟩
    | case3 => cases h
  · -- on the package: nowhere in it is the separator found, so the search goes on to its end
    intro h
    obtain ⟨rfl, hclear⟩ := h
    induction package with
    | nil => rfl
    | cons c package ih =>
      obtain ⟨hne, hclear⟩ := (not_pinSeparator_infix_cons_iff version).1 hclear
      rw [List.cons_append, List.cons_append, splitPin, ih hclear]
      · rfl
      · exact hne

/-- There is a separator across the end of a package exactly if it ends in an equals sign. -/
theorem not_pinSeparator_infix_append_iff : ¬ pinSeparator <:+: package ++ ['='] ↔
    ¬ pinSeparator <:+: package ∧ ¬ ['='] <:+ package := by
  have hsuffix : ['='] ++ ['='] <:+ package ++ ['='] ↔ ['='] <:+ package := by
    rw [List.suffix_append_inj_of_length_eq rfl, and_iff_left rfl]
  rw [List.infix_concat_iff, not_or, and_comm]
  exact and_congr_right fun _ => not_congr hsuffix

theorem Value.isPinned_str_iff {entry : String} :
    (Value.str entry).isPinned = true ↔ pinSeparator <:+: entry.toList := by
  rw [Value.isPinned, Option.isSome_iff_ne_none, ne_eq, splitPin_eq_none_iff, not_not]

/-- A text is a pin if it has something to say before the first separator and after it. -/
theorem Pin.ofEntry_eq_ok_iff {entry : String} {pin : Pin} : Pin.ofEntry entry = .ok pin ↔
    ∃ package version, splitPin entry.toList = some (package, version) ∧
      Text.isBlankText package = false ∧ Text.isBlankText version = false ∧
      pin = ⟨.ofList (Text.trim package), .ofList (Text.trim version)⟩ := by
  unfold ofEntry
  cases splitPin entry.toList with
  | none => simp
  | some parts =>
    obtain ⟨package, version⟩ := parts
    have hblank : ∀ cs, (Text.trim cs).isEmpty = Text.isBlankText cs := fun cs => by
      rw [Bool.eq_iff_iff, List.isEmpty_iff, Text.trim_eq_nil_iff]
    simp only [hblank, Option.some.injEq, Prod.mk.injEq, and_assoc, exists_and_left,
      exists_eq_left']
    cases Text.isBlankText package <;> cases Text.isBlankText version <;> simp [eq_comm (a := pin)]

/-- What is written as a pin is read as one, with the package and the version trimmed. -/
theorem Pin.ofEntry_append {package version : String}
    (hclear : ¬ pinSeparator <:+: package.toList ++ ['='])
    (hpackage : Text.isBlankText package.toList = false)
    (hversion : Text.isBlankText version.toList = false) :
    Pin.ofEntry (package ++ "==" ++ version) =
      .ok ⟨.ofList (Text.trim package.toList), .ofList (Text.trim version.toList)⟩ := by
  refine ofEntry_eq_ok_iff.2 ⟨_, _, splitPin_eq_some_iff.2 ⟨?_, hclear⟩, hpackage, hversion, rfl⟩
  simp [pinSeparator]

end Provision
