import GCode.Trivia

/-!
# Sweeps over a run

A sweep walks a run from its last item to its first and edits it in place: `endComments` puts a
line break behind each comment that has none, and `clearAroundBreaks` takes whitespace away from
line breaks.  Each step checks its indices and gives up when one lies outside the run.  The
theorems `endCommentsBelow?_length`, `clearBeforeBelow?_length` and `clearAfterBelow?_length` show
that no step ever does, and that each sweep is a right fold of the rule it applies at one item.
-/

namespace GCode
namespace Run

/-- Puts an item at an index, which may be the end. -/
def insertAt? (index : Nat) (item : Trivia) (items : Array Trivia) : Option (Array Trivia) :=
  if within : index ≤ items.size then some (items.insertIdx index item within) else none

/-- Takes away the item at an index. -/
def removeAt? (index : Nat) (items : Array Trivia) : Option (Array Trivia) :=
  if within : index < items.size then some (items.eraseIdx index within) else none

/-- Puts a line break behind each comment at a position below `count` that has none there. -/
def endCommentsBelow? : (count : Nat) → Array Trivia → Option (Array Trivia)
  | 0, items => some items
  | position + 1, items => do
      let here ← items[position]?
      if here.isComment && !items[position + 1]?.any Trivia.isLineBreak then
        endCommentsBelow? position (← insertAt? (position + 1) .lineBreak items)
      else
        endCommentsBelow? position items

/-- Takes away whitespace at positions below `count` that stands directly before a line break. -/
def clearBeforeBelow? : (count : Nat) → Array Trivia → Option (Array Trivia)
  | 0, items => some items
  | position + 1, items => do
      let here ← items[position]?
      let next ← items[position + 1]?
      if here.isWhitespace && next.isLineBreak then
        clearBeforeBelow? position (← removeAt? position items)
      else
        clearBeforeBelow? position items

/-- Takes away one whitespace item directly after each line break at a position below `count`. -/
def clearAfterBelow? : (count : Nat) → Array Trivia → Option (Array Trivia)
  | 0, items => some items
  | position + 1, items => do
      let here ← items[position]?
      let next ← items[position + 1]?
      if here.isLineBreak && next.isWhitespace then
        clearAfterBelow? position (← removeAt? (position + 1) items)
      else
        clearAfterBelow? position items

/-- Puts an item before a run, and a line break between them if the item is a comment that would
not end. -/
def consEnded (here : Trivia) (rest : Run) : Run :=
  if here.isComment && !rest.head?.any Trivia.isLineBreak then
    here :: .lineBreak :: rest
  else
    here :: rest

/-- Puts an item before a run, unless it is whitespace before a line break. -/
def consBeforeBreak (here : Trivia) (rest : Run) : Run :=
  if here.isWhitespace && rest.head?.any Trivia.isLineBreak then rest else here :: rest

/-- Puts an item before a run, from which whitespace is taken that would come after a line break. -/
def consAfterBreak (here : Trivia) (rest : Run) : Run :=
  if here.isLineBreak && rest.head?.any Trivia.isWhitespace then
    here :: rest.tail
  else
    here :: rest

theorem consEnded_def (here : Trivia) (rest : Run) :
    consEnded here rest =
      if here.isComment && !rest.head?.any Trivia.isLineBreak then here :: .lineBreak :: rest
      else here :: rest :=
  rfl

theorem consBeforeBreak_cons (here next : Trivia) (rest : Run) :
    consBeforeBreak here (next :: rest) =
      if here.isWhitespace && next.isLineBreak then next :: rest else here :: next :: rest :=
  rfl

theorem consAfterBreak_cons (here next : Trivia) (rest : Run) :
    consAfterBreak here (next :: rest) =
      if here.isLineBreak && next.isWhitespace then here :: rest else here :: next :: rest :=
  rfl

theorem getElem?_append_length (before after : Run) :
    (before ++ after).toArray[before.length]? = after.head? := by
  cases after <;> simp

theorem getElem?_append_length_succ (before : Run) (here : Trivia) (after : Run) :
    (before ++ here :: after).toArray[before.length + 1]? = after.head? := by
  have split := getElem?_append_length (before ++ [here]) after
  simpa using split

theorem insertIdx_length_succ (before : Run) (here item : Trivia) (after : Run) :
    (before ++ here :: after).insertIdx (before.length + 1) item =
      before ++ here :: item :: after := by
  induction before with
  | nil => rfl
  | cons first before ih => simpa using ih

theorem insertAt?_append (before : Run) (here item : Trivia) (after : Run) :
    insertAt? (before.length + 1) item (before ++ here :: after).toArray =
      some (before ++ here :: item :: after).toArray := by
  have within : before.length + 1 ≤ (before ++ here :: after).toArray.size := by simp
  rw [insertAt?, dif_pos within, List.insertIdx_toArray, insertIdx_length_succ]

theorem removeAt?_append (before : Run) (here : Trivia) (after : Run) :
    removeAt? before.length (before ++ here :: after).toArray =
      some (before ++ after).toArray := by
  have within : before.length < (before ++ here :: after).toArray.size := by simp
  rw [removeAt?, dif_pos within, List.eraseIdx_toArray,
    List.eraseIdx_append_of_length_le (Nat.le_refl _), Nat.sub_self, List.eraseIdx_cons_zero]

/-- The positions of `before` are walked from its last item to its first, so `before` is a fold
over the reversed list. -/
theorem endCommentsBelow?_reverse (before after : Run) :
    endCommentsBelow? before.length (before.reverse ++ after).toArray =
      some (before.foldl (fun rest here => consEnded here rest) after).toArray := by
  induction before generalizing after with
  | nil => rfl
  | cons here before ih =>
      have index : before.length = before.reverse.length := List.length_reverse.symm
      have read := getElem?_append_length before.reverse (here :: after)
      have look := getElem?_append_length_succ before.reverse here after
      have insert := insertAt?_append before.reverse here .lineBreak after
      rw [← index] at read look insert
      simp only [List.length_cons, List.reverse_cons, List.append_assoc, List.cons_append,
        List.nil_append, endCommentsBelow?, read, look, insert, List.head?_cons,
        Option.bind_eq_bind, Option.bind_some, List.foldl_cons, consEnded_def here after]
      by_cases unended : (here.isComment && !after.head?.any Trivia.isLineBreak) = true
      · simpa only [if_pos unended] using ih (here :: .lineBreak :: after)
      · simpa only [if_neg unended] using ih (here :: after)

theorem clearBeforeBelow?_reverse (before : Run) (next : Trivia) (after : Run) :
    clearBeforeBelow? before.length (before.reverse ++ next :: after).toArray =
      some (before.foldl (fun rest here => consBeforeBreak here rest) (next :: after)).toArray := by
  induction before generalizing next after with
  | nil => rfl
  | cons here before ih =>
      have index : before.length = before.reverse.length := List.length_reverse.symm
      have read := getElem?_append_length before.reverse (here :: next :: after)
      have look := getElem?_append_length_succ before.reverse here (next :: after)
      have remove := removeAt?_append before.reverse here (next :: after)
      rw [← index] at read look remove
      simp only [List.length_cons, List.reverse_cons, List.append_assoc, List.cons_append,
        List.nil_append, clearBeforeBelow?, read, look, remove, List.head?_cons,
        Option.bind_eq_bind, Option.bind_some, List.foldl_cons, consBeforeBreak_cons]
      by_cases touching : (here.isWhitespace && next.isLineBreak) = true
      · simpa only [if_pos touching] using ih next after
      · simpa only [if_neg touching] using ih here (next :: after)

theorem clearAfterBelow?_reverse (before : Run) (next : Trivia) (after : Run) :
    clearAfterBelow? before.length (before.reverse ++ next :: after).toArray =
      some (before.foldl (fun rest here => consAfterBreak here rest) (next :: after)).toArray := by
  induction before generalizing next after with
  | nil => rfl
  | cons here before ih =>
      have index : before.length = before.reverse.length := List.length_reverse.symm
      have read := getElem?_append_length before.reverse (here :: next :: after)
      have look := getElem?_append_length_succ before.reverse here (next :: after)
      have remove := removeAt?_append (before.reverse ++ [here]) next after
      rw [← index] at read look
      simp only [List.length_append, List.length_reverse, List.length_cons, List.length_nil,
        Nat.zero_add, List.append_assoc, List.cons_append, List.nil_append] at remove
      simp only [List.length_cons, List.reverse_cons, List.append_assoc, List.cons_append,
        List.nil_append, clearAfterBelow?, read, look, remove, List.head?_cons,
        Option.bind_eq_bind, Option.bind_some, List.foldl_cons, consAfterBreak_cons]
      by_cases touching : (here.isLineBreak && next.isWhitespace) = true
      · simpa only [if_pos touching] using ih here after
      · simpa only [if_neg touching] using ih here (next :: after)

theorem endCommentsBelow?_length (run : Run) :
    endCommentsBelow? run.length run.toArray = some (run.foldr consEnded []).toArray := by
  have swept := endCommentsBelow?_reverse run.reverse []
  simpa using swept

theorem clearBeforeBelow?_length (run : Run) :
    clearBeforeBelow? (run.length - 1) run.toArray =
      some (run.foldr consBeforeBreak []).toArray := by
  cases reversed : run.reverse with
  | nil => rw [List.reverse_eq_nil_iff.mp reversed]; rfl
  | cons last before =>
      have swept := clearBeforeBelow?_reverse before last []
      have unreversed : run = before.reverse ++ [last] := by
        rw [← List.reverse_reverse run, reversed, List.reverse_cons]
      simpa [unreversed, consBeforeBreak] using swept

theorem clearAfterBelow?_length (run : Run) :
    clearAfterBelow? (run.length - 1) run.toArray =
      some (run.foldr consAfterBreak []).toArray := by
  cases reversed : run.reverse with
  | nil => rw [List.reverse_eq_nil_iff.mp reversed]; rfl
  | cons last before =>
      have swept := clearAfterBelow?_reverse before last []
      have unreversed : run = before.reverse ++ [last] := by
        rw [← List.reverse_reverse run, reversed, List.reverse_cons]
      simpa [unreversed, consAfterBreak] using swept

/-- Puts a line break behind each comment that is not directly followed by one. -/
def endComments (run : Run) : Run :=
  ((endCommentsBelow? run.length run.toArray).get
    (by rw [endCommentsBelow?_length]; rfl)).toList

/-- Takes away all whitespace that stands before a line break. -/
def clearBeforeBreaks (run : Run) : Run :=
  ((clearBeforeBelow? (run.length - 1) run.toArray).get
    (by rw [clearBeforeBelow?_length]; rfl)).toList

/-- Takes away one whitespace item after each line break. -/
def clearAfterBreaks (run : Run) : Run :=
  ((clearAfterBelow? (run.length - 1) run.toArray).get
    (by rw [clearAfterBelow?_length]; rfl)).toList

/-- Takes whitespace away from line breaks, first before them and then after them. -/
def clearAroundBreaks (run : Run) : Run := clearAfterBreaks (clearBeforeBreaks run)

theorem endComments_eq_foldr (run : Run) : endComments run = run.foldr consEnded [] := by
  simp only [endComments, endCommentsBelow?_length, Option.get_some]

theorem clearBeforeBreaks_eq_foldr (run : Run) :
    clearBeforeBreaks run = run.foldr consBeforeBreak [] := by
  simp only [clearBeforeBreaks, clearBeforeBelow?_length, Option.get_some]

theorem clearAfterBreaks_eq_foldr (run : Run) :
    clearAfterBreaks run = run.foldr consAfterBreak [] := by
  simp only [clearAfterBreaks, clearAfterBelow?_length, Option.get_some]

end Run
end GCode
