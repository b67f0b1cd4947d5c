import GCode.Run.Sweep

/-!
# Spacing of a run

`Run.normalise` recomputes a run from the items that its position keeps.  Whitespace is never kept:
it is put back as single spaces where the position wants them, and nowhere beside a line break.
-/

namespace GCode

/-- What a position does not keep beside whitespace, which no position keeps. -/
structure Exclusion where
  /-- Whether line breaks are dropped. -/
  lineBreaks : Bool
  /-- Whether comments are dropped. -/
  comments : Bool
deriving DecidableEq, Repr

namespace Exclusion

/-- Whether items of a sort are dropped. -/
def contains (exclusion : Exclusion) : Trivia.Kind → Bool
  | .whitespace => true
  | .lineBreak => exclusion.lineBreaks
  | .comment => exclusion.comments

end Exclusion

namespace Run

/-- The items of a run that a position keeps. -/
def kept (exclusion : Exclusion) (run : Run) : Run :=
  run.filter fun item => !exclusion.contains item.kind

/-- Puts one space between neighbours of which neither is whitespace. -/
def spaceLine : Run → Run
  | here :: next :: rest =>
      if !here.isWhitespace && !next.isWhitespace then
        here :: .singleSpace :: spaceLine (next :: rest)
      else
        here :: spaceLine (next :: rest)
  | line => line

/-- Spaces the lines of a run each for itself. -/
def separate (run : Run) : Run :=
  if run.any Trivia.isLineBreak then
    [.lineBreak].intercalate ((run.splitOnP Trivia.isLineBreak).map spaceLine)
  else
    spaceLine run

/-- Puts an item before a run that holds something and does not start with that item. -/
def openWith (opening : Option Trivia) (run : Run) : Run :=
  match opening, run with
  | some item, first :: rest => if first = item then first :: rest else item :: first :: rest
  | _, run => run

/-- Puts an item behind a run that does not end with that item. -/
def closeWith (closing : Option Trivia) (run : Run) : Run :=
  match closing with
  | some item => if run.getLast? = some item then run else run ++ [item]
  | none => run

/-- Recomputes the spacing of a run whose position wants it to open and close with given items. -/
def normalise (opening closing : Option Trivia) (exclusion : Exclusion) (run : Run) : Run :=
  clearAroundBreaks
    (closeWith closing (openWith opening (separate (endComments (kept exclusion run)))))

end Run
end GCode
