import GCode.Trivia

/-!
# Tokens and statements

A token is one word of a program with the trivia before and after it.  A statement is one
instruction, a command followed by its arguments, or the trivia that is left at the end of the file.
`Instruction.build` is the only place where token kinds are checked, and it names the first token
that is out of place.
-/

namespace GCode

/-- One word of a statement with the trivia on both sides of it. -/
structure Token where
  /-- The part that the word plays in its statement. -/
  kind : TokenKind
  /-- The word itself. -/
  text : String
  /-- The trivia before the word. -/
  leading : Run := []
  /-- The trivia after the word. -/
  trailing : Run := []
deriving DecidableEq, Repr

namespace Token

/-- The same word with another run before it. -/
def withLeading (run : Run) (token : Token) : Token := { token with leading := run }

/-- The same word with another run after it. -/
def withTrailing (run : Run) (token : Token) : Token := { token with trailing := run }

end Token

/-- A command with its arguments. -/
structure Instruction where
  /-- The word that says what to do. -/
  command : Token
  /-- The words that say how. -/
  arguments : List Token
deriving DecidableEq, Repr

namespace Instruction

/-- All tokens in the order of the text. -/
def tokens (instruction : Instruction) : List Token :=
  instruction.command :: instruction.arguments

/-- An instruction from its tokens.  The command is checked first and then the arguments, of which
the first stands at position one. -/
def build (command : Token) (arguments : List Token) : Except BuildError Instruction :=
  if command.kind ≠ .command then
    .error (.misplacedToken 0 .command command.kind)
  else
    match arguments.zipIdx.find? fun entry => entry.1.kind ≠ .argument with
    | some (argument, index) => .error (.misplacedToken (index + 1) .argument argument.kind)
    | none => .ok ⟨command, arguments⟩

/-- Every token has the kind that its place wants. -/
def WellKinded (instruction : Instruction) : Prop :=
  instruction.command.kind = .command ∧
    ∀ argument ∈ instruction.arguments, argument.kind = .argument

instance (instruction : Instruction) : Decidable instruction.WellKinded := by
  unfold WellKinded
  infer_instance

/-- Replaces the run before the command. -/
def withLeading (run : Run) (instruction : Instruction) : Instruction :=
  { instruction with command := instruction.command.withLeading run }

/-- Replaces the run after the last token, which is the command if there are no arguments. -/
def withTrailing (run : Run) (instruction : Instruction) : Instruction :=
  match instruction.arguments.getLast? with
  | none => { instruction with command := instruction.command.withTrailing run }
  | some last =>
      { instruction with
        arguments := instruction.arguments.dropLast ++ [last.withTrailing run] }

end Instruction

/-- One item of a program. -/
inductive Statement where
  /-- A command with its arguments. -/
  | instruction (instruction : Instruction)
  /-- The trivia behind the last instruction. -/
  | endOfFile (trivia : Run)
deriving DecidableEq, Repr

/-- Statements in the order of the text. -/
abbrev Program := List Statement

namespace Statement

/-- The tokens of an instruction; the end of a file has none. -/
def tokens : Statement → List Token
  | instruction content => content.tokens
  | endOfFile _ => []

/-- Replaces the first run of a statement, which is the only one at the end of a file. -/
def withLeading (run : Run) : Statement → Statement
  | instruction content => instruction (content.withLeading run)
  | endOfFile _ => endOfFile run

/-- Replaces the last run of a statement, which is the only one at the end of a file. -/
def withTrailing (run : Run) : Statement → Statement
  | instruction content => instruction (content.withTrailing run)
  | endOfFile _ => endOfFile run

end Statement

namespace Program

/-- How many different statements a program holds. -/
def distinct (program : Program) : Nat := program.eraseDups.length

end Program

end GCode
