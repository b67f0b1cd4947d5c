import GCode.Configuration
import GCode.Json.Grammar
import GCode.Text

/-!
# Libraries that read and write configurations

A configuration is declared as a record of switches with names and standard states.  How it is read
from JSON and written to it is left to a library that derives both from such a declaration, and the
library is no part of the program.  It stands here as a parameter, and what is known of it from its
documentation stands as laws: how the code that is derived for the record visits the entries of a
map and the items of an array (`VisitsMembers`, `VisitsItems`), what a value hands to it
(`Library.ReadsValues`), how a text is read from one place to the next (`Library.ReadsTexts`), and
what is written (`Library.Writes`).
-/

namespace GCode

/-- The reason why a JSON value is no configuration. -/
inductive ConfigurationError where
  /-- A switch that is neither true nor false. -/
  | notBoolean (found : Json)
  /-- Neither an object nor an array. -/
  | notConfiguration (found : Json)
  /-- An array with more items than there are switches. -/
  | tooManyItems (count : Nat)

/-- What a message calls a value. -/
def Json.description : Json → String
  | null => "null"
  | bool value => "boolean `" ++ (if value then "true" else "false") ++ "`"
  | integer value => "integer `" ++ value.repr ++ "`"
  | real value => "floating point `" ++ realText value ++ "`"
  | string text => "string " ++ Text.quoted text
  | array _ => "sequence"
  | object _ => "map"

/-- The wording of an error. -/
def ConfigurationError.message : ConfigurationError → String
  | notBoolean found => "invalid type: " ++ found.description ++ ", expected a boolean"
  | notConfiguration found =>
      "invalid type: " ++ found.description ++ ", expected struct FormatterConfiguration"
  | tooManyItems count =>
      "invalid length " ++ count.repr ++ ", expected fewer elements in array"

/-- The reason why a text is no configuration. -/
inductive ConfigurationFault where
  /-- JSON so far, but not of a configuration: a value of the wrong sort, or a repeated switch. -/
  | misshapen
  /-- A character that cannot stand where it stands. -/
  | malformed
  /-- A text that ends too early. -/
  | truncated
deriving DecidableEq, Repr

/-! ## What a value hands over -/

namespace Json

/-- A value is true or false. -/
def IsBool (value : Json) : Prop := ∃ state, value = .bool state

/-- The entries of an object as a map: one for each name, with the last value that the name has, in
ascending order of the names. -/
structure Entries (members entries : List (String × Json)) : Prop where
  /-- The names ascend, so none of them repeats. -/
  ascending : entries.Pairwise fun first second => first.1 < second.1
  /-- Each entry holds the value of its name. -/
  mem_iff : ∀ name value, (name, value) ∈ entries ↔ member? name members = some value

end Json

/-- The code that is derived for configurations visits the entries of a map one after another, and
notes the states that they give. -/
structure VisitsMembers
    (visit : Given → List (String × Json) → Except ConfigurationError Configuration) : Prop where
  /-- A switch that has not been given at the end has its standard state. -/
  nil : ∀ given, visit given [] = .ok given.configuration
  /-- An entry of another name is passed over, whatever it holds. -/
  unknown : ∀ given name value rest, Switch.ofName? name = none →
    visit given ((name, value) :: rest) = visit given rest
  /-- A boolean gives a state to the switch of its name. -/
  bool : ∀ (given : Given) switch state rest, given.get switch = none →
    visit given ((switch.name, .bool state) :: rest) = visit (given.set switch state) rest
  /-- Nothing else does. -/
  notBoolean : ∀ (given : Given) switch value rest, given.get switch = none → ¬value.IsBool →
    visit given ((switch.name, value) :: rest) = .error (.notBoolean value)

/-- The code that is derived for configurations visits the items of an array for some switches, and
leaves the items behind them. -/
structure VisitsItems
    (visit : List Switch → Given → List Json →
      Except ConfigurationError (Configuration × List Json)) : Prop where
  /-- A switch for which there is no item has its standard state. -/
  nil : ∀ switches given, visit switches given [] = .ok (given.configuration, [])
  /-- Behind the last switch no item is read. -/
  done : ∀ given items, visit [] given items = .ok (given.configuration, items)
  /-- A boolean gives a state to the next switch. -/
  bool : ∀ switch switches given state items,
    visit (switch :: switches) given (.bool state :: items) =
      visit switches (given.set switch state) items
  /-- Nothing else does. -/
  notBoolean : ∀ switch switches given value items, ¬value.IsBool →
    visit (switch :: switches) given (value :: items) = .error (.notBoolean value)

/-- The place of a reader in the text of a configuration. -/
inductive TextPlace where
  /-- Before the configuration. -/
  | start
  /-- Before a member, or right behind the opening brace before the closing one. -/
  | member (first : Bool)
  /-- Behind the name of a member, which holds a switch or none. -/
  | value (switch : Option Switch)
  /-- Behind the value of a member. -/
  | next

/-- A library that reads and writes configurations. -/
structure Library where
  /-- Visits the entries of a map. -/
  visitMembers : Given → List (String × Json) → Except ConfigurationError Configuration
  /-- Visits the items of an array. -/
  visitItems : List Switch → Given → List Json →
    Except ConfigurationError (Configuration × List Json)
  /-- Reads a configuration from a value. -/
  ofJson : Json → Except ConfigurationError Configuration
  /-- Reads on in a text, at a place behind the states that have been given. -/
  visitText : TextPlace → Given → List Char → Except ConfigurationFault Configuration
  /-- Reads a configuration from a text. -/
  ofText : String → Except ConfigurationFault Configuration
  /-- Writes a configuration as a value. -/
  toJson : Configuration → Json
  /-- Writes a configuration as a text. -/
  toText : Configuration → String

namespace Library

/-- How a library reads configurations from values. -/
structure ReadsValues (library : Library) : Prop where
  /-- The entries of a map are visited by the derived code. -/
  members : VisitsMembers library.visitMembers
  /-- The items of an array are visited by the derived code. -/
  items : VisitsItems library.visitItems
  /-- An object hands over its entries as those of a map. -/
  object : ∀ members entries, Json.Entries members entries →
    library.ofJson (.object members) = library.visitMembers {} entries
  /-- An array hands over its items, and none of them may be left. -/
  array : ∀ items, library.ofJson (.array items) = (do
    let (configuration, rest) ← library.visitItems Switch.all {} items
    if rest.isEmpty then return configuration else throw (.tooManyItems items.length))
  /-- No other value stands for a record. -/
  other : ∀ value, (∀ members, value ≠ .object members) → (∀ items, value ≠ .array items) →
    library.ofJson value = .error (.notConfiguration value)

open Json in
/-- How a library reads configurations from texts.  The text of a value is JSON. -/
structure ReadsTexts (library : Library) : Prop where
  /-- Reading starts before the whole text, with nothing given. -/
  ofText : ∀ text, library.ofText text = library.visitText .start {} text.toList
  /-- A record may stand as an object. -/
  opening : ∀ blanks rest, Blank blanks →
    library.visitText .start {} (blanks ++ '\x7b' :: rest) =
      library.visitText (.member true) {} rest
  /-- A quoted name tells by the text that it spells which switch its member holds, if any. -/
  name : ∀ (given : Given) first blanks quoted name rest, Blank blanks → Spells quoted name →
    (∀ switch, Switch.ofName? (String.ofList name) = some switch → given.get switch = none) →
    library.visitText (.member first) given (blanks ++ '\"' :: (quoted ++ '\"' :: rest)) =
      library.visitText (.value (Switch.ofName? (String.ofList name))) given rest
  /-- A second member for a switch is an error of the contents. -/
  repeated : ∀ (given : Given) first blanks quoted name rest switch, Blank blanks →
    Spells quoted name → Switch.ofName? (String.ofList name) = some switch →
    (given.get switch).isSome = true →
    library.visitText (.member first) given (blanks ++ '\"' :: (quoted ++ '\"' :: rest)) =
      .error .misshapen
  /-- A value that belongs to no switch is passed over as a whole. -/
  ignored : ∀ given between text next rest, Blank between → Written .element text → Follows next →
    library.visitText (.value none) given (between ++ ':' :: (text ++ next :: rest)) =
      library.visitText .next given (next :: rest)
  /-- The word of a boolean gives a state to a switch. -/
  boolean : ∀ (given : Given) switch between left state rest, Blank between → Blank left →
    library.visitText (.value (some switch)) given
        (between ++ ':' :: (left ++ (boolWord state ++ rest))) =
      library.visitText .next (given.set switch state) rest
  /-- Another member comes behind a comma. -/
  comma : ∀ given blanks rest, Blank blanks →
    library.visitText .next given (blanks ++ ',' :: rest) =
      library.visitText (.member false) given rest
  /-- The closing brace ends the record.  A switch that has not been given then has its standard
  state, and only blanks may come behind the brace. -/
  closing : ∀ given before after, Blank before → Blank after →
    library.visitText .next given (before ++ '\x7d' :: after) = .ok given.configuration
  /-- The brace may close right behind the opening one. -/
  empty : ∀ given before after, Blank before → Blank after →
    library.visitText (.member true) given (before ++ '\x7d' :: after) = .ok given.configuration

/-- How a library writes configurations: as objects with a member for each switch. -/
structure Writes (library : Library) : Prop where
  toJson : ∀ configuration, library.toJson configuration =
    .object (Switch.all.map fun switch => (switch.name, .bool (configuration.get switch)))
  toText : ∀ configuration, Json.ObjectText (library.toText configuration).toList
    (Switch.all.map fun switch => (switch.name, Json.boolWord (configuration.get switch)))

end Library
end GCode
