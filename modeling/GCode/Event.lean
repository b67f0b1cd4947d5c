import GCode.Configuration
import GCode.Json.Basic

/-!
# Releases and events

The two packages that are released, and what they tell about their progress: that a pass has
started, each statement it has formatted, that its source has ended, and how much was written.
-/

namespace GCode

/-- A released package. -/
structure Release where
  /-- The name of the package. -/
  name : String
  /-- Its version. -/
  version : String
deriving DecidableEq, Repr

namespace Release

/-- The package that holds trivia, statements and formatting. -/
def core : Release := ⟨"gcode-core", "0.1.0"⟩

/-- The package that writes formatted programs. -/
def formatter : Release := ⟨"gcode-formatter", "0.1.0"⟩

end Release

/-- How important an event is. -/
inductive Level where
  | trace
  | debug
deriving DecidableEq, Repr

/-- The name of a level. -/
def Level.name : Level → String
  | trace => "TRACE"
  | debug => "DEBUG"

/-- One event. -/
inductive Event where
  /-- A pass has been opened. -/
  | started (configuration : Configuration)
  /-- The statement with the given index in its pass has been formatted. -/
  | formatted (index : Nat)
  /-- The source of a pass has answered for the first time that there is no more. -/
  | finished (count : Nat)
  /-- A formatted program has been written out. -/
  | wrote (count bytes : Nat)
deriving DecidableEq, Repr

namespace Event

/-- How important an event is: single statements are for tracing only. -/
def level : Event → Level
  | formatted _ => .trace
  | started _ => .debug
  | finished _ => .debug
  | wrote .. => .debug

/-- The part of the program that an event comes from. -/
def target : Event → String
  | wrote .. => "gcode_formatter"
  | started _ => "gcode_core::formatter"
  | formatted _ => "gcode_core::formatter"
  | finished _ => "gcode_core::formatter"

/-- The wording of an event. -/
def message : Event → String
  | started _ => "Starting format pass"
  | formatted _ => "Formatted statement"
  | finished count => "Format pass finished after " ++ count.repr ++ " statements"
  | wrote count bytes =>
      "Wrote " ++ count.repr ++ " formatted statements (" ++ bytes.repr ++ " bytes)"

/-- The values that an event carries beside its wording. -/
def fields : Event → List (String × Json)
  | started configuration =>
      [("normalise_whitespace", .bool configuration.normaliseWhitespace),
        ("remove_all_comments", .bool configuration.removeAllComments)]
  | formatted index => [("index", .integer index)]
  | finished _ => []
  | wrote .. => []

/-- An event as one record. -/
def toJson (event : Event) : Json :=
  .object
    (("level", .string event.level.name) :: ("target", .string event.target) ::
      ("message", .string event.message) :: event.fields)

end Event

end GCode
