import GCode.BuildError

/-!
# Trivia

The text around the words of a program that the machine does not read: whitespace, line breaks and
comments.  A run of trivia is attached before and after each token, so that a program keeps every
character of its text.
-/

namespace GCode

/-- A number of columns, at least one. -/
structure Width where
  /-- How many spaces the whitespace covers. -/
  columns : Nat
  /-- Whitespace covers at least one column. -/
  columns_pos : 0 < columns
deriving DecidableEq, Repr

/-- One item of trivia. -/
inductive Trivia where
  /-- Spaces side by side. -/
  | whitespace (width : Width)
  /-- The end of a line. -/
  | lineBreak
  /-- A semicolon and the text behind it up to the end of its line. -/
  | comment (text : String)
deriving DecidableEq, Repr

/-- The trivia on one side of a token, in the order of the text. -/
abbrev Run := List Trivia

namespace Trivia

/-- The sort of an item, without its width or text. -/
inductive Kind where
  | whitespace
  | lineBreak
  | comment
deriving DecidableEq, Repr

/-- The sort of an item. -/
def kind : Trivia → Kind
  | whitespace _ => .whitespace
  | lineBreak => .lineBreak
  | comment _ => .comment

/-- Whitespace of one column. -/
def singleSpace : Trivia := whitespace ⟨1, Nat.one_pos⟩

/-- Whitespace of the given number of columns, which must not be zero. -/
def ofColumns (columns : Nat) : Except BuildError Trivia :=
  if columns_pos : 0 < columns then
    .ok (whitespace ⟨columns, columns_pos⟩)
  else
    .error .emptyWhitespace

/-- A comment with the given text, which must stay on one line. -/
def ofCommentText (text : String) : Except BuildError Trivia :=
  if '\n' ∈ text.toList ∨ '\r' ∈ text.toList then
    .error (.brokenComment text)
  else
    .ok (comment text)

/-- Whether an item is whitespace. -/
def isWhitespace : Trivia → Bool
  | whitespace _ => true
  | _ => false

/-- Whether an item is a line break. -/
def isLineBreak : Trivia → Bool
  | lineBreak => true
  | _ => false

/-- Whether an item is a comment. -/
def isComment : Trivia → Bool
  | comment _ => true
  | _ => false

/-- The text of a comment, without its semicolon. -/
def commentText? : Trivia → Option String
  | comment text => some text
  | _ => none

end Trivia
end GCode
