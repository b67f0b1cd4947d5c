import GCode.Text

/-!
# Token kinds and building errors

A statement is one command word followed by its arguments.  Trivia and statements are checked once,
when they are built.  Formatting never fails.
-/

namespace GCode

/-- The part that a token plays in its statement. -/
inductive TokenKind where
  | command
  | argument
deriving DecidableEq, Repr

namespace TokenKind

/-- The word by which messages call a kind. -/
def name : TokenKind → String
  | command => "command"
  | argument => "argument"

end TokenKind

/-- The reason why a piece of a program could not be built. -/
inductive BuildError where
  /-- Whitespace of no columns. -/
  | emptyWhitespace
  /-- A comment that does not end with its line. -/
  | brokenComment (text : String)
  /-- A token of the wrong kind for its place in a statement. -/
  | misplacedToken (position : Nat) (expected found : TokenKind)
deriving DecidableEq, Repr

namespace BuildError

/-- The construction that an error belongs to. -/
inductive Subject where
  | trivia
  | statement
deriving DecidableEq, Repr

/-- Whether trivia or a statement was being built. -/
def subject : BuildError → Subject
  | emptyWhitespace => .trivia
  | brokenComment _ => .trivia
  | misplacedToken .. => .statement

/-- The wording of an error. -/
def message : BuildError → String
  | emptyWhitespace => "Whitespace trivia must have a positive width"
  | brokenComment text => "End-of-line comment contains a line break: " ++ Text.quoted text
  | misplacedToken position expected found =>
      "Expected " ++ expected.name ++ " token at position " ++ position.repr ++ ", found "
        ++ found.name

end BuildError

end GCode
