import GCode.Statement

/-!
# Sources

A source answers each request with its next statement or with "no more".  The second answer need
not be final: a source may have gaps, behind which it goes on.
-/

namespace GCode

/-- An estimate of how many statements are left: at least `lower`, and at most `upper` if known. -/
structure SizeHint where
  lower : Nat
  upper : Option Nat
deriving DecidableEq, Repr

namespace SizeHint

/-- The estimate that is a known number. -/
def exactly (count : Nat) : SizeHint := ⟨count, some count⟩

/-- The number of statements left if the estimate leaves no choice. -/
def size? (hint : SizeHint) : Option Nat :=
  if hint.upper = some hint.lower then some hint.lower else none

end SizeHint

/-- A source of statements. -/
structure Source where
  /-- The answers to come.  A gap is an answer of "no more", and so is everything behind the end. -/
  slots : List (Option Statement)
  /-- The estimate that the source always gives; without it, it counts the slots. -/
  fixedHint : Option SizeHint := none
  /-- How many requests the source has answered. -/
  asked : Nat := 0
deriving DecidableEq, Repr

namespace Source

/-- The source of the statements of a program, without gaps. -/
def ofProgram (program : Program) : Source := { slots := program.map some }

/-- The answer to the next request. -/
def answer (source : Source) : Option Statement := source.slots.head?.join

/-- The source after the next request. -/
def afterAnswer (source : Source) : Source :=
  { source with slots := source.slots.tail, asked := source.asked + 1 }

/-- The estimate that the source gives. -/
def sizeHint (source : Source) : SizeHint :=
  source.fixedHint.getD (.exactly source.slots.length)

/-- The statements that the source has still to give, across its gaps. -/
def statements (source : Source) : Program := source.slots.filterMap id

end Source
end GCode
