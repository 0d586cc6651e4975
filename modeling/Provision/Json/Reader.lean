import Provision.Json.Token

/-!
# Reading JSON

A source is put together from tokens one at a time. The state is the stack of arrays and objects
that are still open together with what may come next, so the reader is a fold over the tokens and
the nesting of the text is the height of the stack. A container that is opened inside `maxNesting`
others is read to its end and has no value.
-/

namespace Provision.Json

namespace Source

/-- An array or an object that is still open, with what it holds so far, latest first. -/
inductive Frame where
  /-- An array. -/
  | items (done : List Source)
  /-- An object, and the name of the member whose value is being read. -/
  | members (done : List (Option String × Source)) (name : Option String)

/-- What may come next. -/
inductive Spot where
  /-- A value. -/
  | value
  /-- A value, or the end of the array just opened. -/
  | firstItem
  /-- A name, or the end of the object just opened. -/
  | firstName
  /-- A name, behind the members read so far. -/
  | name (done : List (Option String × Source))
  /-- The colon behind a name. -/
  | colon (done : List (Option String × Source)) (name : Option String)
  /-- Whatever may stand behind a complete value. -/
  | after (s : Source)

/-- The state of the reader. -/
structure Unfinished where
  /-- The open containers, innermost first. -/
  stack : List Frame
  /-- What may come next. -/
  spot : Spot

namespace Unfinished

/-- Begins a value at a place where one is due. -/
def begin (stack : List Frame) : Token → Option Unfinished
  | .str s => some ⟨stack, .after (.ofString? s)⟩
  | .scalar s => some ⟨stack, .after s⟩
  | .openArr => some ⟨.items [] :: stack, .firstItem⟩
  | .openObj => some ⟨stack, .firstName⟩
  | _ => none

/-- Ends a container inside those of the stack; it has a value if there are fewer than `limit`. -/
def close (limit : Nat) (stack : List Frame) (s : Source) : Unfinished :=
  ⟨stack, .after (if stack.length < limit then s else .invalid)⟩

/-- Takes a separator or a closing mark behind a complete value. -/
def resume? (limit : Nat) (s : Source) : List Frame → Token → Option Unfinished
  | .items done :: stack, .comma => some ⟨.items (s :: done) :: stack, .value⟩
  | .items done :: stack, .closeArr => some (close limit stack (.arr (s :: done).reverse))
  | .members done name :: stack, .comma => some ⟨stack, .name ((name, s) :: done)⟩
  | .members done name :: stack, .closeObj =>
    some (close limit stack (.obj ((name, s) :: done).reverse))
  | _, _ => none

/-- Takes one token. -/
def step (limit : Nat) (u : Unfinished) (token : Token) : Option Unfinished :=
  match u.spot, token with
  | .value, token => begin u.stack token
  | .firstItem, .closeArr => some (close limit u.stack.tail (.arr []))
  | .firstItem, token => begin u.stack token
  | .firstName, .closeObj => some (close limit u.stack (.obj []))
  | .firstName, .str s => some ⟨u.stack, .colon [] s⟩
  | .name done, .str s => some ⟨u.stack, .colon done s⟩
  | .colon done name, .colon => some ⟨.members done name :: u.stack, .value⟩
  | .after s, token => resume? limit s u.stack token
  | _, _ => none

/-- The source, once it is complete. -/
def result? : Unfinished → Option Source
  | ⟨[], .after s⟩ => some s
  | _ => none

end Unfinished

/-- The source of a text that holds one, where containers inside `limit` others have no value. -/
def ofTextWithin? (limit : Nat) (text : String) : Option Source := do
  let tokens ← Token.scan text.toList
  let final ← tokens.foldlM (Unfinished.step limit) ⟨[], .value⟩
  final.result?

/-- How deep containers with a value may stand inside each other. -/
def maxNesting : Nat := 127

/-- The source of a text that holds one. -/
def ofText? (text : String) : Option Source := ofTextWithin? maxNesting text

end Source

end Provision.Json
