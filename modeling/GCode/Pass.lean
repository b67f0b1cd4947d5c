import GCode.Event
import GCode.Formatting
import GCode.Source

/-!
# Passes

A pass formats the statements of a source one by one, each when it is asked for.  Every operation
is a number of calls of `Pass.next` that stops at the first "no more"; what it leaves unasked stays
in the source.
-/

namespace GCode

/-- A pass over a source. -/
structure Pass where
  /-- What formatting does. -/
  configuration : Configuration
  /-- Where the statements come from. -/
  source : Source
  /-- The last formatted statement. -/
  previous : Option Statement
  /-- How many statements have been formatted. -/
  produced : Nat
  /-- Whether the source has ever answered that there is no more. -/
  finished : Bool
  /-- What the pass has told, in the order of time. -/
  log : List Event
deriving DecidableEq, Repr

namespace Pass

/-- Opens a pass.  Nothing is asked of the source yet. -/
def start (configuration : Configuration) (source : Source) : Pass where
  configuration := configuration
  source := source
  previous := none
  produced := 0
  finished := false
  log := [.started configuration]

/-- Adds an event. -/
def tell (event : Event) (pass : Pass) : Pass := { pass with log := pass.log ++ [event] }

/-- Notes that the source has answered that there is no more, and tells so the first time. -/
def noteEnd (pass : Pass) : Pass :=
  if pass.finished then pass else { pass.tell (.finished pass.produced) with finished := true }

/-- Notes a formatted statement. -/
def noteFormatted (statement : Statement) (pass : Pass) : Pass :=
  { pass.tell (.formatted pass.produced) with
    produced := pass.produced + 1
    previous := some statement }

/-- Asks the source once, and formats its statement if it has one. -/
def next (pass : Pass) : Option Statement × Pass :=
  let asked := { pass with source := pass.source.afterAnswer }
  match pass.source.answer with
  | none => (none, asked.noteEnd)
  | some statement =>
      let formatted := statement.format pass.configuration pass.previous
      (some formatted, asked.noteFormatted formatted)

/-- The next statements, at most `count` of them, up to the first "no more". -/
def take : (count : Nat) → Pass → List Statement × Pass
  | 0, pass => ([], pass)
  | count + 1, pass =>
      match pass.next with
      | (none, pass) => ([], pass)
      | (some statement, pass) =>
          let taken := take count pass
          (statement :: taken.1, taken.2)

/-- The statement behind `count` others, if there is no "no more" before it. -/
def nth : (count : Nat) → Pass → Option Statement × Pass
  | 0, pass => pass.next
  | count + 1, pass =>
      match pass.next with
      | (none, pass) => (none, pass)
      | (some _, pass) => nth count pass

/-- All statements up to the first "no more".  There is one behind the last slot at the latest. -/
def rest (pass : Pass) : List Statement × Pass := pass.take (pass.source.slots.length + 1)

/-- The number of statements up to the first "no more". -/
def count (pass : Pass) : Nat × Pass :=
  let taken := pass.rest
  (taken.1.length, taken.2)

/-- The last statement before the first "no more". -/
def last (pass : Pass) : Option Statement × Pass :=
  let taken := pass.rest
  (taken.1.getLast?, taken.2)

/-- The estimate of how many statements are left, which is that of the source. -/
def sizeHint (pass : Pass) : SizeHint := pass.source.sizeHint

/-- What can be asked of a pass. -/
inductive Operation where
  | next
  | nth (count : Nat)
  | take (count : Nat)
  | rest
  | count
  | last
  | sizeHint
  /-- The number of statements left, which only an estimate without choice can answer. -/
  | size
deriving DecidableEq, Repr

/-- What a pass answers. -/
inductive Answer where
  | statement (statement : Option Statement)
  | statements (statements : List Statement)
  | count (count : Nat)
  | sizeHint (hint : SizeHint)
  | size (count : Option Nat)
deriving DecidableEq, Repr

/-- Carries out an operation. -/
def apply (operation : Operation) (pass : Pass) : Answer × Pass :=
  match operation with
  | .next => pass.next.map .statement id
  | .nth count => (pass.nth count).map .statement id
  | .take count => (pass.take count).map .statements id
  | .rest => pass.rest.map .statements id
  | .count => pass.count.map .count id
  | .last => pass.last.map .statement id
  | .sizeHint => (.sizeHint pass.sizeHint, pass)
  | .size => (.size pass.sizeHint.size?, pass)

end Pass

namespace Program

/-- The formatted program, from a pass over all its statements. -/
def format (configuration : Configuration) (program : Program) : Program :=
  (Pass.start configuration (.ofProgram program)).rest.1

end Program
end GCode
