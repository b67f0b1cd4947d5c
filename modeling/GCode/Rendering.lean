import GCode.Statement

/-!
# Rendering

Every piece of a program has a text, and the text of a whole is the texts of its parts in a row.
Writing it out fails if it holds whitespace wider than `widestColumns`, and only then.
-/

namespace GCode

/-- The largest number of columns that whitespace can be written with. -/
def widestColumns : Nat := 65535

/-- The reason why a piece of a program could not be written out. -/
inductive RenderError where
  /-- Whitespace of more than `widestColumns` columns. -/
  | tooWide
deriving DecidableEq, Repr

/-- The wording of an error. -/
def RenderError.message : RenderError → String
  | tooWide => "Formatting argument out of range"

/-- Writes out `characters` if the piece that has them `fits`. -/
def renderIf (fits : Bool) (characters : Unit → List Char) : Except RenderError String :=
  if fits then .ok (String.ofList (characters ())) else .error .tooWide

namespace Trivia

/-- The text of an item. -/
def characters : Trivia → List Char
  | whitespace width => List.replicate width.columns ' '
  | lineBreak => ['\n']
  | comment text => ';' :: text.toList

/-- Whether an item is narrow enough to be written. -/
def fits : Trivia → Bool
  | whitespace width => width.columns ≤ widestColumns
  | _ => true

/-- Writes out an item. -/
def render (item : Trivia) : Except RenderError String :=
  renderIf item.fits fun _ => item.characters

end Trivia

namespace Run

/-- The text of a run. -/
def characters (run : Run) : List Char := run.flatMap Trivia.characters

/-- Whether every item of a run is narrow enough to be written. -/
def fits (run : Run) : Bool := run.all Trivia.fits

/-- Writes out a run. -/
def render (run : Run) : Except RenderError String :=
  renderIf (fits run) fun _ => characters run

end Run

namespace Token

/-- The text of a token with its trivia. -/
def characters (token : Token) : List Char :=
  Run.characters token.leading ++ token.text.toList ++ Run.characters token.trailing

/-- Whether both runs of a token are narrow enough to be written. -/
def fits (token : Token) : Bool := Run.fits token.leading && Run.fits token.trailing

/-- Writes out a token with its trivia. -/
def render (token : Token) : Except RenderError String :=
  renderIf token.fits fun _ => token.characters

end Token

namespace Statement

/-- The text of a statement. -/
def characters : Statement → List Char
  | instruction content => content.tokens.flatMap Token.characters
  | endOfFile trivia => Run.characters trivia

/-- Whether every run of a statement is narrow enough to be written. -/
def fits : Statement → Bool
  | instruction content => content.tokens.all Token.fits
  | endOfFile trivia => Run.fits trivia

/-- Writes out a statement. -/
def render (statement : Statement) : Except RenderError String :=
  renderIf statement.fits fun _ => statement.characters

end Statement

namespace Program

/-- The text of a program. -/
def characters (program : Program) : List Char := program.flatMap Statement.characters

/-- Whether every statement of a program can be written. -/
def fits (program : Program) : Bool := program.all Statement.fits

/-- Writes out a program. -/
def render (program : Program) : Except RenderError String :=
  renderIf (fits program) fun _ => characters program

end Program
end GCode
