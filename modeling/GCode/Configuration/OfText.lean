import GCode.Configuration.OfJson
import GCode.Json.Reader

/-!
# A built-in reader of texts

The text is read from left to right, and the first problem decides: a value of the wrong shape, a
character that cannot stand where it stands, or the end of the text.  Members that hold no switch
are skipped with only their form checked, so they may repeat.  With this reader and the one of
values, `Library.builtIn` is the library that the program runs with.
-/

namespace GCode

namespace ConfigurationFault

/-- A text that is not JSON is no configuration either. -/
def ofFault : Json.Fault → ConfigurationFault
  | .malformed => malformed
  | .truncated => truncated

end ConfigurationFault

/-- The container that holds the switches. -/
inductive SwitchHolder where
  | array
  | object
deriving DecidableEq, Repr

/-- What a place in the text of a configuration waits for. -/
inductive ConfigurationPhase where
  /-- The configuration. -/
  | start
  /-- The rest of a scalar that stands where a configuration should. -/
  | scalar (scalar : Json.Scalar)
  /-- An item, or right after the opening bracket the end of the array. -/
  | item (first : Bool)
  /-- A member, or right after the opening bracket the end of the object. -/
  | member (first : Bool)
  /-- The rest of a member's name. -/
  | name (quotation : Json.Quotation)
  /-- The colon behind a member's name. -/
  | colon (switch : Option Switch)
  /-- The state of a switch. -/
  | value (switch : Switch)
  /-- The rest of the state of a switch. -/
  | state (switch : Switch) (holder : SwitchHolder) (scalar : Json.Scalar)
  /-- The rest of a member that holds no switch. -/
  | skipped (reader : Json.Reader)
  /-- A comma, or the end of the container. -/
  | next (holder : SwitchHolder)
  /-- The end of the text. -/
  | done

/-- What the reader waits for at a place. -/
def TextPlace.phase : TextPlace → ConfigurationPhase
  | start => .start
  | member first => .member first
  | value switch => .colon switch
  | next => .next .object

/-- The part of a configuration's text that has been read. -/
structure ConfigurationReader where
  /-- What the present place waits for. -/
  phase : ConfigurationPhase := .start
  /-- The states given so far. -/
  given : Given := {}

namespace ConfigurationReader

/-- Waits for something else. -/
def awaiting (phase : ConfigurationPhase) (reader : ConfigurationReader) : ConfigurationReader :=
  { reader with phase := phase }

/-- The switch that the next item of an array sets. -/
def nextSwitch? (reader : ConfigurationReader) : Option Switch :=
  Switch.all.find? fun switch => (reader.given.get switch).isNone

/-- The reader after one more character, or the problem with that character. -/
abbrev Result := Except ConfigurationFault ConfigurationReader

/-- Sets a switch to a complete value. -/
def settle (switch : Switch) (holder : SwitchHolder) (value : Json)
    (reader : ConfigurationReader) : Result :=
  match value with
  | .bool state => .ok ⟨.next holder, reader.given.set switch state⟩
  | _ => .error .misshapen

/-- Reads the first character of a configuration. -/
def stepStart (character : Char) (reader : ConfigurationReader) : Result :=
  if Json.isBlank character then .ok reader
  else if character = '[' then .ok (reader.awaiting (.item true))
  else if character = '\x7b' then .ok (reader.awaiting (.member true))
  else
    match Json.Scalar.begin? character with
    | some scalar => .ok (reader.awaiting (.scalar scalar))
    | none => .error .malformed

/-- Reads one more character of a scalar that stands where a configuration should. -/
def stepScalar (character : Char) (scalar : Json.Scalar) (reader : ConfigurationReader) :
    Result :=
  match scalar.step .strict character with
  | .more scalar => .ok (reader.awaiting (.scalar scalar))
  | .ends _ => .error .misshapen
  | .ended _ => .error .misshapen
  | .malformed => .error .malformed

/-- Reads the first character of the state of a switch. -/
def stepState (character : Char) (switch : Switch) (holder : SwitchHolder)
    (reader : ConfigurationReader) : Result :=
  if character = '[' ∨ character = '\x7b' then .error .misshapen
  else
    match Json.Scalar.begin? character with
    | some scalar => .ok (reader.awaiting (.state switch holder scalar))
    | none => .error .malformed

/-- Reads one more character of the state of a switch.  A number ends before a character, and no
switch is a number. -/
def stepStateRest (character : Char) (switch : Switch) (holder : SwitchHolder)
    (scalar : Json.Scalar) (reader : ConfigurationReader) : Result :=
  match scalar.step .strict character with
  | .more scalar => .ok (reader.awaiting (.state switch holder scalar))
  | .ends value => reader.settle switch holder value
  | .ended _ => .error .misshapen
  | .malformed => .error .malformed

/-- Reads a character where an item may start. -/
def stepItem (character : Char) (first : Bool) (reader : ConfigurationReader) : Result :=
  if Json.isBlank character then .ok reader
  else if character = ']' then
    if first then .ok (reader.awaiting .done) else .error .malformed
  else
    match reader.nextSwitch? with
    | some switch => reader.stepState character switch .array
    | none => .error .malformed

/-- Reads a character where a member may start. -/
def stepMember (character : Char) (first : Bool) (reader : ConfigurationReader) : Result :=
  if Json.isBlank character then .ok reader
  else if character = '\"' then .ok (reader.awaiting (.name {}))
  else if character = '\x7d' && first then .ok (reader.awaiting .done)
  else .error .malformed

/-- Takes the whole name of a member.  A switch may be given only once. -/
def takeName (name : String) (reader : ConfigurationReader) : Result :=
  match Switch.ofName? name with
  | none => .ok (reader.awaiting (.colon none))
  | some switch =>
      if (reader.given.get switch).isSome then .error .misshapen
      else .ok (reader.awaiting (.colon (some switch)))

/-- Reads one more character of a member's name. -/
def stepName (character : Char) (quotation : Json.Quotation) (reader : ConfigurationReader) :
    Result :=
  match quotation.step .strict character with
  | .more quotation => .ok (reader.awaiting (.name quotation))
  | .closed => reader.takeName quotation.text
  | .malformed => .error .malformed

/-- Reads a character behind the name of a member. -/
def stepColon (character : Char) (switch : Option Switch) (reader : ConfigurationReader) :
    Result :=
  if Json.isBlank character then .ok reader
  else if character = ':' then
    match switch with
    | some switch => .ok (reader.awaiting (.value switch))
    | none => .ok (reader.awaiting (.skipped {}))
  else .error .malformed

/-- Reads a character behind an item or a member.  An array may not go on behind both switches. -/
def stepNext (character : Char) (holder : SwitchHolder) (reader : ConfigurationReader) :
    Result :=
  if Json.isBlank character then .ok reader
  else
    match holder with
    | .array =>
        if character = ']' then .ok (reader.awaiting .done)
        else if character = ',' && reader.nextSwitch?.isSome then
          .ok (reader.awaiting (.item false))
        else .error .malformed
    | .object =>
        if character = '\x7d' then .ok (reader.awaiting .done)
        else if character = ',' then .ok (reader.awaiting (.member false))
        else .error .malformed

/-- Reads one more character of a member that holds no switch. -/
def stepSkipped (character : Char) (skipped : Json.Reader) (reader : ConfigurationReader) :
    Result :=
  match skipped.step .lenient character with
  | .more skipped => .ok (reader.awaiting (.skipped skipped))
  | .ends _ => .ok (reader.awaiting (.next .object))
  | .ended _ => (reader.awaiting (.next .object)).stepNext character .object
  | .malformed => .error .malformed

/-- Reads one more character. -/
def step (reader : ConfigurationReader) (character : Char) : Result :=
  match reader.phase with
  | .start => reader.stepStart character
  | .scalar scalar => reader.stepScalar character scalar
  | .item first => reader.stepItem character first
  | .member first => reader.stepMember character first
  | .name quotation => reader.stepName character quotation
  | .colon switch => reader.stepColon character switch
  | .value switch =>
      if Json.isBlank character then .ok reader else reader.stepState character switch .object
  | .state switch holder scalar => reader.stepStateRest character switch holder scalar
  | .skipped skipped => reader.stepSkipped character skipped
  | .next holder => reader.stepNext character holder
  | .done => if Json.isBlank character then .ok reader else .error .malformed

/-- The fault of a text that ends inside a scalar of the wrong shape. -/
def faultAtEnd (scalar : Json.Scalar) : ConfigurationFault :=
  match scalar.finish .strict with
  | .ok _ => .misshapen
  | .error fault => .ofFault fault

/-- The configuration at the end of the text. -/
def finish (reader : ConfigurationReader) : Except ConfigurationFault Configuration :=
  match reader.phase with
  | .done => .ok reader.given.configuration
  | .scalar scalar => .error (faultAtEnd scalar)
  | .state _ _ scalar => .error (faultAtEnd scalar)
  | .skipped skipped =>
      match skipped.finish .lenient with
      | .ok _ => .error .truncated
      | .error fault => .error (.ofFault fault)
  | _ => .error .truncated

end ConfigurationReader

namespace Configuration

/-- Reads on in a text. -/
def visitText (place : TextPlace) (given : Given) (text : List Char) :
    Except ConfigurationFault Configuration := do
  let reader ← text.foldlM ConfigurationReader.step ⟨place.phase, given⟩
  reader.finish

/-- The configuration that a JSON text stands for. -/
def ofText (text : String) : Except ConfigurationFault Configuration :=
  visitText .start {} text.toList

end Configuration

/-- The library that the program runs with. -/
def Library.builtIn : Library where
  visitMembers := Configuration.visitMembers
  visitItems := Configuration.visitItems
  ofJson := Configuration.ofJson
  visitText := Configuration.visitText
  ofText := Configuration.ofText
  toJson := Configuration.toJson
  toText := Configuration.toText

end GCode
