import GCode.Configuration.Library

/-!
# A built-in reader of values

The program runs with a library of its own.  From a value it reads a configuration by looking the
switches up, which comes to the same as visiting all that the value holds.
-/

namespace GCode
namespace Configuration

/-- The configuration as an object with both switches. -/
def toJson (configuration : Configuration) : Json :=
  .object
    [(Switch.normaliseWhitespace.name, .bool configuration.normaliseWhitespace),
      (Switch.removeAllComments.name, .bool configuration.removeAllComments)]

/-- The configuration as JSON text without blanks. -/
def toText (configuration : Configuration) : String := configuration.toJson.compact

/-- The state of a switch from the value given for it, if one is given. -/
def readSwitch (switch : Switch) : Option Json → Except ConfigurationError Bool
  | none => .ok (standard.get switch)
  | some (.bool value) => .ok value
  | some found => .error (.notBoolean found)

/-- The configuration that a JSON value stands for.  The switches are judged in order, and the
length of an array after them. -/
def ofJson : Json → Except ConfigurationError Configuration
  | .object members => do
      let normalise ← readSwitch .normaliseWhitespace
        (Json.member? Switch.normaliseWhitespace.name members)
      let remove ← readSwitch .removeAllComments
        (Json.member? Switch.removeAllComments.name members)
      return ⟨normalise, remove⟩
  | .array items => do
      let normalise ← readSwitch .normaliseWhitespace items[0]?
      let remove ← readSwitch .removeAllComments items[1]?
      if 2 < items.length then
        throw (.tooManyItems items.length)
      return ⟨normalise, remove⟩
  | found => .error (.notConfiguration found)

/-- Visits the entries of a map. -/
def visitMembers (given : Given) :
    List (String × Json) → Except ConfigurationError Configuration
  | [] => .ok given.configuration
  | (name, value) :: rest =>
      match Switch.ofName? name, value with
      | none, _ => visitMembers given rest
      | some switch, .bool state => visitMembers (given.set switch state) rest
      | some _, found => .error (.notBoolean found)

/-- Visits the items of an array. -/
def visitItems : List Switch → Given → List Json →
    Except ConfigurationError (Configuration × List Json)
  | _, given, [] => .ok (given.configuration, [])
  | [], given, items => .ok (given.configuration, items)
  | switch :: switches, given, .bool state :: items =>
      visitItems switches (given.set switch state) items
  | _ :: _, _, found :: _ => .error (.notBoolean found)

end Configuration
end GCode
