import GCode.Configuration
import GCode.Run.Spacing
import GCode.Statement

/-!
# Formatting statements

A token's trivia is recomputed from its place in its statement.  Before the command line breaks and
comments are kept, and before an argument nothing.  After the last token line breaks and comments
are kept, with a space before a comment that comes first and a line break at the end.  After any
other token stands one space.

Words, token kinds and the number of tokens never change.
-/

namespace GCode

namespace Exclusion

/-- Between the tokens of a statement nothing is kept. -/
def inside : Exclusion := ⟨true, true⟩

/-- At the ends of a statement line breaks are kept, and comments unless all are removed. -/
def outside (configuration : Configuration) : Exclusion :=
  ⟨false, configuration.removeAllComments⟩

end Exclusion

namespace Token

/-- The run before a token, recomputed from whether the token is the first of its statement. -/
def formattedLeading (configuration : Configuration) (first : Bool) (token : Token) : Run :=
  if first then
    Run.normalise none none (.outside configuration) token.leading
  else
    Run.normalise none none .inside token.leading

/-- The run after a token, recomputed from whether the token is the last of its statement. -/
def formattedTrailing (configuration : Configuration) (last : Bool) (token : Token) : Run :=
  if last then
    Run.normalise (some .singleSpace) (some .lineBreak) (.outside configuration) token.trailing
  else
    Run.normalise (some .singleSpace) (some .singleSpace) .inside token.trailing

/-- The same word with both runs recomputed from its place in the statement. -/
def format (configuration : Configuration) (first last : Bool) (token : Token) : Token :=
  { token with
    leading := token.formattedLeading configuration first
    trailing := token.formattedTrailing configuration last }

/-- Formats the arguments of a statement, the final one as its last token. -/
def formatArguments (configuration : Configuration) : List Token → List Token
  | [] => []
  | [last] => [last.format configuration false true]
  | argument :: next :: rest =>
      argument.format configuration false false :: formatArguments configuration (next :: rest)

end Token

namespace Instruction

/-- Formats every token in its place. -/
def format (configuration : Configuration) (instruction : Instruction) : Instruction where
  command := instruction.command.format configuration true instruction.arguments.isEmpty
  arguments := Token.formatArguments configuration instruction.arguments

end Instruction

namespace Run

/-- The trivia at the end of a file without its comments and without spaces beside line breaks. -/
def stripComments (run : Run) : Run :=
  clearAroundBreaks (run.filter fun item => !item.isComment)

end Run

namespace Statement

/-- Formats a statement.  `previous` is the formatted statement before it, which no rule reads. -/
def format (configuration : Configuration) (_previous : Option Statement) :
    Statement → Statement
  | instruction content =>
      if configuration.normaliseWhitespace then
        instruction (content.format configuration)
      else
        instruction content
  | endOfFile trivia =>
      if configuration.normaliseWhitespace && configuration.removeAllComments then
        endOfFile (Run.stripComments trivia)
      else
        endOfFile trivia

end Statement
end GCode
