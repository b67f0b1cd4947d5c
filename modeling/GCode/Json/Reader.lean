import GCode.Json.Scalar

/-!
# Reading JSON

A value is read one character at a time, with the containers around the present place on a stack.
`Json.ofText?` reads a whole text.
-/

namespace GCode
namespace Json

/-- The blanks that may stand between the parts of a value. -/
def isBlank (character : Char) : Bool :=
  character == ' ' || character == '\t' || character == '\n' || character == '\r'

/-- A container whose end has not been reached, with its latest part first. -/
inductive Frame where
  /-- An array and its items so far. -/
  | array (items : List Json)
  /-- An object, its members so far and the name of the member that is being read. -/
  | object (members : List (String × Json)) (name : String)

namespace Frame

/-- Adds a value to a container. -/
def push (value : Json) : Frame → Frame
  | array items => array (value :: items)
  | object members name => object ((name, value) :: members) ""

/-- Names the next member of an object. -/
def named (name : String) : Frame → Frame
  | array items => array items
  | object members _ => object members name

/-- The container as a value. -/
def close : Frame → Json
  | array items => .array items.reverse
  | object members _ => .object members.reverse

/-- Whether a character is the closing bracket of a container. -/
def isClosedBy (character : Char) : Frame → Bool
  | array _ => character == ']'
  | object .. => character == '\x7d'

end Frame

/-- What a place in a value waits for. -/
inductive ReaderPhase where
  /-- A value. -/
  | value
  /-- The first part of a container, or its end. -/
  | first
  /-- The quoted name of a member. -/
  | name
  /-- The rest of a quoted name. -/
  | nameText (quotation : Quotation)
  /-- The colon behind a name. -/
  | colon
  /-- The rest of a scalar. -/
  | scalar (scalar : Scalar)
  /-- A comma, or the end of the container. -/
  | next

/-- The part of a value that has been read. -/
structure Reader where
  /-- The open containers, the innermost first. -/
  stack : List Frame := []
  /-- What the present place waits for. -/
  phase : ReaderPhase := .value

namespace Reader

/-- Places a complete value in the innermost container. -/
def deliver (value : Json) (stack : List Frame) : Progress Reader :=
  match stack with
  | [] => .ends value
  | frame :: outer => .more ⟨frame.push value :: outer, .next⟩

/-- Ends the innermost container. -/
def close (stack : List Frame) : Progress Reader :=
  match stack with
  | [] => .malformed
  | frame :: outer => deliver frame.close outer

/-- Reads the first character of a value. -/
def stepValue (character : Char) (stack : List Frame) : Progress Reader :=
  if isBlank character then .more ⟨stack, .value⟩
  else if character = '[' then .more ⟨.array [] :: stack, .first⟩
  else if character = '\x7b' then .more ⟨.object [] "" :: stack, .first⟩
  else
    match Scalar.begin? character with
    | some scalar => .more ⟨stack, .scalar scalar⟩
    | none => .malformed

/-- Reads a character where the name of a member must start. -/
def stepName (character : Char) (stack : List Frame) : Progress Reader :=
  if isBlank character then .more ⟨stack, .name⟩
  else if character = '\"' then .more ⟨stack, .nameText {}⟩
  else .malformed

/-- Reads the first character of what comes behind a comma or an opening bracket. -/
def stepPart (character : Char) (stack : List Frame) : Progress Reader :=
  match stack with
  | .object .. :: _ => stepName character stack
  | _ => stepValue character stack

/-- Reads a character behind a value. -/
def stepNext (character : Char) (stack : List Frame) : Progress Reader :=
  match stack with
  | [] => .malformed
  | frame :: outer =>
      if isBlank character then .more ⟨frame :: outer, .next⟩
      else if frame.isClosedBy character then close (frame :: outer)
      else if character = ',' then
        match frame with
        | .array _ => .more ⟨frame :: outer, .value⟩
        | .object .. => .more ⟨frame :: outer, .name⟩
      else .malformed

/-- Reads a character behind an opening bracket. -/
def stepFirst (character : Char) (stack : List Frame) : Progress Reader :=
  match stack with
  | [] => .malformed
  | frame :: outer =>
      if isBlank character then .more ⟨frame :: outer, .first⟩
      else if frame.isClosedBy character then close (frame :: outer)
      else stepPart character (frame :: outer)

/-- Reads one more character. -/
def step (rigour : Rigour) (character : Char) (reader : Reader) : Progress Reader :=
  match reader.phase with
  | .value => stepValue character reader.stack
  | .first => stepFirst character reader.stack
  | .name => stepName character reader.stack
  | .nameText quotation =>
      match quotation.step rigour character, reader.stack with
      | .more quotation, stack => .more ⟨stack, .nameText quotation⟩
      | .closed, frame :: outer => .more ⟨frame.named quotation.text :: outer, .colon⟩
      | .closed, [] => .malformed
      | .malformed, _ => .malformed
  | .colon =>
      if isBlank character then .more reader
      else if character = ':' then .more ⟨reader.stack, .value⟩
      else .malformed
  | .scalar scalar =>
      match scalar.step rigour character with
      | .more scalar => .more ⟨reader.stack, .scalar scalar⟩
      | .ends value => deliver value reader.stack
      | .ended value =>
          match reader.stack with
          | [] => .ended value
          | frame :: outer => stepNext character (frame.push value :: outer)
      | .malformed => .malformed
  | .next => stepNext character reader.stack

/-- The value at the end of the text. -/
def finish (rigour : Rigour) (reader : Reader) : Except Fault Json :=
  match reader.phase with
  | .scalar scalar =>
      match scalar.finish rigour, reader.stack with
      | .error fault, _ => .error fault
      | .ok value, [] => .ok value
      | .ok _, _ :: _ => .error .truncated
  | _ => .error .truncated

end Reader

/-- A text that has been read in part: a value with only blanks behind it, or a part of a value. -/
inductive Document where
  | reading (reader : Reader)
  | complete (value : Json)

namespace Document

/-- Reads one more character behind a value. -/
def stepAfter (character : Char) (value : Json) : Except Fault Document :=
  if isBlank character then .ok (complete value) else .error .malformed

/-- Reads one more character. -/
def step (document : Document) (character : Char) : Except Fault Document :=
  match document with
  | reading reader =>
      match reader.step .strict character with
      | .more reader => .ok (reading reader)
      | .ends value => .ok (complete value)
      | .ended value => stepAfter character value
      | .malformed => .error .malformed
  | complete value => stepAfter character value

/-- The value of a text at its end. -/
def finish : Document → Except Fault Json
  | reading reader => reader.finish .strict
  | complete value => .ok value

end Document

/-- The value that a whole text is written for. -/
def ofText (text : String) : Except Fault Json := do
  let document ← text.toList.foldlM Document.step (.reading {})
  document.finish

end Json
end GCode
