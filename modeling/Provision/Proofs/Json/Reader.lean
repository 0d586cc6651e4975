import Provision.Json.Record
import Provision.Proofs.Json.Tokens

/-!
# Reading printed trees

What is read where a tree was printed (`readBack`) is known for every tree: the tree itself, except
that numbers are what their texts stand for and that containers inside too many others have no
value. It is put together by the tokens of the tree on top of whatever is still open
(`foldlM_tokens`), so both spellings are read as it (`ofText?_compact_line`, `ofText?_pretty_line`).
For a tree that keeps within the limits it is the tree (`readBack_of_legible`, `readText_pretty`).
-/

namespace Provision.Json

mutual

/-- What is read where a tree was printed, with so many containers still allowed inside each
other. -/
def readBack (room : Nat) : Json → Source
  | .null => .null
  | .bool b => .bool b
  | .int n => .ofSpelling (toString n)
  | .float x => .ofSpelling x.toJsonText
  | .str s => .str s
  | .arr l => if room = 0 then .invalid else .arr (readBackItems (room - 1) l)
  | .obj l => if room = 0 then .invalid else .obj (readBackMembers (room - 1) l)

/-- What is read for each item. -/
def readBackItems (room : Nat) : List Json → List Source
  | [] => []
  | j :: l => readBack room j :: readBackItems room l

/-- What is read for each member. -/
def readBackMembers (room : Nat) : List (String × Json) → List (Option String × Source)
  | [] => []
  | (k, j) :: l => (some k, readBack room j) :: readBackMembers room l

end

section

variable {room : Nat}

theorem readBackItems_eq_map (l : List Json) : readBackItems room l = l.map (readBack room) := by
  induction l with
  | nil => rfl
  | cons j l ih => rw [readBackItems, ih, List.map_cons]

theorem readBackMembers_eq_map (l : List (String × Json)) :
    readBackMembers room l = l.map fun m => (some m.1, readBack room m.2) := by
  induction l with
  | nil => rfl
  | cons m l ih => rw [readBackMembers, ih, List.map_cons]

@[simp] theorem readBack_str (s : String) : readBack room (.str s) = .str s := rfl

@[simp] theorem readBack_arr (l : List Json) :
    readBack (room + 1) (.arr l) = .arr (l.map (readBack room)) :=
  congrArg Source.arr (readBackItems_eq_map l)

@[simp] theorem readBack_obj (l : List (String × Json)) :
    readBack (room + 1) (.obj l) = .obj (l.map fun m => (some m.1, readBack room m.2)) :=
  congrArg Source.obj (readBackMembers_eq_map l)

end

namespace Source

namespace Unfinished

variable {limit : Nat} {stack : List Frame}

/-- What is closed is put aside, and without a value if too many containers are open around it. -/
theorem close_eq (stack : List Frame) (s : Source) :
    close limit stack s = ⟨stack, .after (if limit - stack.length = 0 then .invalid else s)⟩ := by
  unfold close
  by_cases h : stack.length < limit
  · rw [if_pos h, if_neg (by omega)]
  · rw [if_neg h, if_pos (by omega)]

/-- The first item is read like any other. -/
theorem foldlM_tokens_firstItem (j : Json) :
    (tokens j).foldlM (step limit) ⟨stack, .firstItem⟩ =
      (tokens j).foldlM (step limit) ⟨stack, .value⟩ := by
  cases j <;> rfl

/-- Behind the first part there is a comma before each. -/
theorem intercalate_comma (ts : List Token) (tss : List (List Token)) :
    [Token.comma].intercalate (ts :: tss) = ts ++ tss.flatMap (.comma :: ·) := by
  induction tss generalizing ts with
  | nil => rw [List.intercalate_singleton, List.flatMap_nil, List.append_nil]
  | cons us tss ih =>
    rw [List.intercalate_cons_cons, ih, List.flatMap_cons, List.append_assoc, List.singleton_append,
      List.cons_append]

mutual

/-- The tokens of a tree are read as what the tree is read back as, in the room that the open
containers leave. -/
theorem foldlM_tokens (j : Json) (stack : List Frame) :
    (tokens j).foldlM (step limit) ⟨stack, .value⟩ =
      some ⟨stack, .after (readBack (limit - stack.length) j)⟩ := by
  match j with
  | .null | .bool _ | .int _ | .float _ | .str _ => rfl
  | .arr [] => exact congrArg some (close_eq stack (.arr []))
  | .arr (j :: l) =>
    have hitem := foldlM_tokens j (.items [] :: stack)
    rw [tokens, itemTokens, intercalate_comma, List.append_assoc, List.foldlM_cons]
    show ((tokens j ++ _).foldlM (step limit) ⟨.items [] :: stack, .firstItem⟩) = _
    rw [List.foldlM_append, foldlM_tokens_firstItem, hitem]
    exact (foldlM_items l stack [] _).trans (congrArg some (close_eq stack _))
  | .obj [] => exact congrArg some (close_eq stack (.obj []))
  | .obj ((k, j) :: l) =>
    have hmember := foldlM_tokens j (.members [] (some k) :: stack)
    rw [tokens, memberTokens, intercalate_comma, List.append_assoc]
    show ((tokens j ++ _).foldlM (step limit) ⟨.members [] (some k) :: stack, .value⟩) = _
    rw [List.foldlM_append, hmember]
    exact (foldlM_members l stack [] (some k) _).trans (congrArg some (close_eq stack _))

/-- Behind an item, the others are read into the array up to its end. -/
theorem foldlM_items (l : List Json) (stack : List Frame) (done : List Source) (s : Source) :
    ((itemTokens l).flatMap (Token.comma :: ·) ++ [Token.closeArr]).foldlM (step limit)
        ⟨.items done :: stack, .after s⟩ =
      some (close limit stack
        (.arr ((s :: done).reverse ++ readBackItems (limit - stack.length - 1) l))) := by
  match l with
  | [] =>
    rw [readBackItems, List.append_nil]
    rfl
  | j :: l =>
    have hitem := foldlM_tokens j (.items (s :: done) :: stack)
    rw [itemTokens, List.flatMap_cons, List.append_assoc, List.cons_append]
    show ((tokens j ++ _).foldlM (step limit) ⟨.items (s :: done) :: stack, .value⟩) = _
    rw [List.foldlM_append, hitem, Option.bind_eq_bind, Option.bind_some,
      foldlM_items l stack (s :: done), readBackItems, List.length_cons, Nat.sub_add_eq]
    simp

/-- Behind a member, the others are read into the object up to its end. -/
theorem foldlM_members (l : List (String × Json)) (stack : List Frame)
    (done : List (Option String × Source)) (name : Option String) (s : Source) :
    ((memberTokens l).flatMap (Token.comma :: ·) ++ [Token.closeObj]).foldlM (step limit)
        ⟨.members done name :: stack, .after s⟩ =
      some (close limit stack
        (.obj (((name, s) :: done).reverse ++ readBackMembers (limit - stack.length - 1) l))) := by
  match l with
  | [] =>
    rw [readBackMembers, List.append_nil]
    rfl
  | (k, j) :: l =>
    have hmember := foldlM_tokens j (.members ((name, s) :: done) (some k) :: stack)
    rw [memberTokens, List.flatMap_cons, List.append_assoc]
    show ((tokens j ++ _).foldlM (step limit)
        ⟨.members ((name, s) :: done) (some k) :: stack, .value⟩) = _
    rw [List.foldlM_append, hmember, Option.bind_eq_bind, Option.bind_some,
      foldlM_members l stack ((name, s) :: done), readBackMembers, List.length_cons, Nat.sub_add_eq]
    simp

end

end Unfinished

/-- A text that is cut into the tokens of a tree is read as what the tree is read back as. -/
theorem ofText?_of_scan {text : String} {j : Json} (h : Token.scan text.toList = some (tokens j)) :
    ofText? text = some (j.readBack maxNesting) := by
  rw [ofText?, ofTextWithin?, h]
  simp only [Option.bind_eq_bind, Option.bind_some, Unfinished.foldlM_tokens j []]
  rfl

/-- The indented text of a tree is read as what the tree is read back as. -/
theorem ofText?_pretty (j : Json) : ofText? j.pretty = some (j.readBack maxNesting) :=
  ofText?_of_scan (Token.cuts_prettyAt 0 j).scan_eq

/-- A tree printed on lines of its own, indented. -/
theorem ofText?_pretty_line (j : Json) :
    ofText? (j.pretty ++ "\n") = some (j.readBack maxNesting) :=
  ofText?_of_scan (Token.cuts_prettyAt 0 j).scan_line

/-- A tree printed on a line of its own. -/
theorem ofText?_compact_line (j : Json) :
    ofText? (j.compact ++ "\n") = some (j.readBack maxNesting) :=
  ofText?_of_scan (Token.cuts_compact j).scan_line

end Source

/-! ## Trees within the limits -/

mutual

/-- Every number in the tree is what its text stands for. -/
def Legible : Json → Prop
  | .int n => Spells (toString n) (.int n)
  | .float x => Spells x.toJsonText (.float x)
  | .arr l => LegibleItems l
  | .obj l => LegibleMembers l
  | _ => True

/-- Every number among the items is what its text stands for. -/
def LegibleItems : List Json → Prop
  | [] => True
  | j :: l => Legible j ∧ LegibleItems l

/-- Every number among the members is what its text stands for. -/
def LegibleMembers : List (String × Json) → Prop
  | [] => True
  | (_, j) :: l => Legible j ∧ LegibleMembers l

end

mutual

/-- How many containers stand inside each other in a tree. -/
def depth : Json → Nat
  | .arr l => depthItems l + 1
  | .obj l => depthMembers l + 1
  | _ => 0

/-- The depth of the deepest item. -/
def depthItems : List Json → Nat
  | [] => 0
  | j :: l => max (depth j) (depthItems l)

/-- The depth of the deepest member. -/
def depthMembers : List (String × Json) → Nat
  | [] => 0
  | (_, j) :: l => max (depth j) (depthMembers l)

end

/-- The text of the tree is read as the tree: its numbers are what their texts stand for, and no
more than `n` containers stand inside each other. -/
structure Readable (n : Nat) (j : Json) : Prop where
  legible : j.Legible
  depth : j.depth ≤ n

mutual

/-- A tree whose numbers are what they are spelled as, and which is not too deep, is read back as it
is. -/
theorem readBack_of_legible {j : Json} {room : Nat} (h : j.Legible) (hdepth : j.depth ≤ room) :
    j.readBack room = .ofJson j := by
  match j, h with
  | .null, _ | .bool _, _ | .str _, _ => rfl
  | .int _, h | .float _, h => exact h.ofSpelling_eq
  | .arr l, h =>
    have hitems : depthItems l + 1 ≤ room := hdepth
    rw [readBack, if_neg (by omega), readBackItems_of_legible h (by omega), Source.ofJson]
  | .obj l, h =>
    have hmembers : depthMembers l + 1 ≤ room := hdepth
    rw [readBack, if_neg (by omega), readBackMembers_of_legible h (by omega), Source.ofJson]

theorem readBackItems_of_legible {l : List Json} {room : Nat} (h : LegibleItems l)
    (hdepth : depthItems l ≤ room) :
    readBackItems room l = Source.ofJsonItems l := by
  match l, h with
  | [], _ => rfl
  | j :: l, h =>
    obtain ⟨hfirst, hrest⟩ := Nat.max_le.1 hdepth
    rw [readBackItems, Source.ofJsonItems, readBack_of_legible h.1 hfirst,
      readBackItems_of_legible h.2 hrest]

theorem readBackMembers_of_legible {l : List (String × Json)} {room : Nat} (h : LegibleMembers l)
    (hdepth : depthMembers l ≤ room) : readBackMembers room l = Source.ofJsonMembers l := by
  match l, h with
  | [], _ => rfl
  | (k, j) :: l, h =>
    obtain ⟨hfirst, hrest⟩ := Nat.max_le.1 hdepth
    rw [readBackMembers, Source.ofJsonMembers, readBack_of_legible h.1 hfirst,
      readBackMembers_of_legible h.2 hrest]

end

namespace Readable

variable {n : Nat} {l : List Json} {members : List (String × Json)}

theorem str (s : String) : Readable n (.str s) := ⟨trivial, Nat.zero_le n⟩

theorem bool (b : Bool) : Readable n (.bool b) := ⟨trivial, Nat.zero_le n⟩

theorem arr (h : ∀ j ∈ l, Readable n j) : Readable (n + 1) (.arr l) := by
  have hitems : LegibleItems l ∧ depthItems l ≤ n := by
    induction l with
    | nil => exact ⟨trivial, Nat.zero_le n⟩
    | cons j l ih =>
      obtain ⟨hj, hl⟩ := List.forall_mem_cons.1 h
      obtain ⟨hlegible, hdepth⟩ := ih hl
      exact ⟨⟨hj.legible, hlegible⟩, Nat.max_le.2 ⟨hj.depth, hdepth⟩⟩
  exact ⟨hitems.1, Nat.succ_le_succ hitems.2⟩

theorem obj (h : ∀ m ∈ members, Readable n m.2) : Readable (n + 1) (.obj members) := by
  have hmembers : LegibleMembers members ∧ depthMembers members ≤ n := by
    induction members with
    | nil => exact ⟨trivial, Nat.zero_le n⟩
    | cons m members ih =>
      obtain ⟨hm, hrest⟩ := List.forall_mem_cons.1 h
      obtain ⟨hlegible, hdepth⟩ := ih hrest
      exact ⟨⟨hm.legible, hlegible⟩, Nat.max_le.2 ⟨hm.depth, hdepth⟩⟩
  exact ⟨hmembers.1, Nat.succ_le_succ hmembers.2⟩

theorem mono {m : Nat} {j : Json} (h : Readable n j) (hnm : n ≤ m) : Readable m j :=
  ⟨h.legible, Nat.le_trans h.depth hnm⟩

theorem items {α : Type} {write : α → Json} {l : List α} (h : ∀ a ∈ l, Readable n (write a)) :
    Readable (n + 1) (.arr (l.map write)) := by
  apply arr
  intro j hj
  obtain ⟨a, ha, rfl⟩ := List.mem_map.1 hj
  exact h a ha

theorem table {α : Type} {write : α → Json} {t : Table α}
    (h : ∀ v ∈ t.values, Readable n (write v)) :
    Readable (n + 1) (t.toJson write) := by
  apply obj
  intro m hm
  obtain ⟨e, he, rfl⟩ := List.mem_map.1 hm
  exact h e.2 (List.mem_map.2 ⟨e, he, rfl⟩)

end Readable

/-- Reading the text of a tree is reading the tree. -/
theorem readText_pretty {α : Type} {read : Reading α} {j : Json}
    (h : Readable Source.maxNesting j) :
    readText read j.pretty = read (.ofJson j) := by
  rw [readText, Source.ofText?_pretty, readBack_of_legible h.legible h.depth]

end Provision.Json
