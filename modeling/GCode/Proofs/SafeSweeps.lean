import GCode.Proofs.Distinction
import GCode.Proofs.EndOfFile

/-!
# What the sweeps touch

A sweep gives up when it reads, fills or empties a place outside its run, and no sweep ever does.
Clearing around line breaks takes away only whitespace that has a line break on one of its sides
with nothing but whitespace between: `Run.sweeps_safe`.
-/

namespace GCode
namespace Run

/-- The first item of a run that is not whitespace. -/
def firstSolid (run : Run) : Option Trivia := run.find? fun item => !item.isWhitespace

/-- A run becomes another one by losing whitespace beside line breaks.  The run comes behind
`before`, which is read backwards. -/
inductive Trims : (before : Run) → (run result : Run) → Prop where
  /-- Nothing is left to go through. -/
  | nil {before : Run} : Trims before [] []
  /-- An item stays. -/
  | keep {before run result : Run} (here : Trivia) (rest : Trims (here :: before) run result) :
      Trims before (here :: run) (here :: result)
  /-- Whitespace is lost.  The nearest item on one side that is not whitespace is a line break. -/
  | lose {before run result : Run} (width : Width)
      (beside : before.firstSolid = some .lineBreak ∨ run.firstSolid = some .lineBreak)
      (rest : Trims (.whitespace width :: before) run result) :
      Trims before (.whitespace width :: run) result

theorem firstSolid_cons_congr (here : Trivia) {first second : Run}
    (same : first.firstSolid = second.firstSolid) :
    firstSolid (here :: first) = firstSolid (here :: second) := by
  cases here with
  | whitespace width => exact same
  | lineBreak => rfl
  | comment text => rfl

theorem firstSolid_of_head {run : Run} (starts : run.head?.any Trivia.isLineBreak = true) :
    run.firstSolid = some .lineBreak := by
  rcases run with _ | ⟨_ | _ | _, rest⟩
  · simp at starts
  · simp [Trivia.isLineBreak] at starts
  · rfl
  · simp [Trivia.isLineBreak] at starts

namespace Trims

variable {before run result : Run}

theorem firstSolid_eq (trims : Trims before run result) : result.firstSolid = run.firstSolid := by
  induction trims with
  | nil => rfl
  | keep here _ ih => exact firstSolid_cons_congr here ih
  | lose width _ _ ih => exact ih

theorem unspaced_eq (trims : Trims before run result) : result.unspaced = run.unspaced := by
  induction trims with
  | nil => rfl
  | keep here _ ih => simp only [unspaced, List.filter_cons] at ih ⊢; rw [ih]
  | lose width _ _ ih => exact ih

/-- Losing whitespace twice is losing it once.  What stands before the second run has lost
whitespace too, so only its first solid item is compared. -/
theorem trans {middle before' : Run} (first : Trims before run middle)
    (second : Trims before' middle result) (same : before'.firstSolid = before.firstSolid) :
    Trims before run result := by
  induction first generalizing before' result with
  | nil => cases second; exact .nil
  | @keep before run middle here rest ih =>
      cases second with
      | keep _ others => exact .keep here (ih others (firstSolid_cons_congr here same))
      | lose width beside others =>
          rw [same, rest.firstSolid_eq] at beside
          exact .lose width beside (ih others same)
  | lose width beside _ ih => exact .lose width beside (ih second same)

/-- Whitespace that comes first behind a line break may be lost as well. -/
theorem tail {width : Width} (trims : Trims before run (.whitespace width :: result))
    (follows : before.firstSolid = some .lineBreak) : Trims before run result := by
  induction run generalizing before with
  | nil => cases trims
  | cons here run ih =>
      cases trims with
      | keep _ rest => exact .lose width (.inl follows) rest
      | lose other beside rest => exact .lose other beside (ih rest follows)

end Trims

/-! ## Clearing around line breaks -/

theorem trims_clearBeforeBreaks (before run : Run) : Trims before run (clearBeforeBreaks run) := by
  induction run generalizing before with
  | nil => rw [clearBeforeBreaks_nil]; exact .nil
  | cons here rest ih =>
      have inner := ih (here :: before)
      rw [clearBeforeBreaks_cons, consBeforeBreak]
      split
      · rename_i touching
        obtain ⟨space, broken⟩ := Bool.and_eq_true_iff.mp touching
        cases here with
        | whitespace width =>
            exact .lose width (.inr (inner.firstSolid_eq ▸ firstSolid_of_head broken)) inner
        | lineBreak => simp [Trivia.isWhitespace] at space
        | comment text => simp [Trivia.isWhitespace] at space
      · exact .keep here inner

theorem trims_clearAfterBreaks (before run : Run) : Trims before run (clearAfterBreaks run) := by
  induction run generalizing before with
  | nil => rw [clearAfterBreaks_nil]; exact .nil
  | cons here rest ih =>
      have inner := ih (here :: before)
      rw [clearAfterBreaks_cons, consAfterBreak]
      split
      · rename_i touching
        obtain ⟨broken, spaced⟩ := Bool.and_eq_true_iff.mp touching
        have follows : firstSolid (here :: before) = some .lineBreak := firstSolid_of_head broken
        rcases starts : clearAfterBreaks rest with _ | ⟨_ | _ | _, others⟩ <;>
          rw [starts] at inner spaced
        · simp at spaced
        · exact .keep here (inner.tail follows)
        · simp [Trivia.isWhitespace] at spaced
        · simp [Trivia.isWhitespace] at spaced
      · exact .keep here inner

theorem trims_clearAroundBreaks (run : Run) : Trims [] run (clearAroundBreaks run) :=
  (trims_clearBeforeBreaks [] run).trans (trims_clearAfterBreaks [] _) rfl

theorem spaceBeforeBreak_cons {here : Trivia} {rest : Run} :
    SpaceBeforeBreak (here :: rest) ↔
      (here.isWhitespace = true ∧ rest.head? = some .lineBreak) ∨ SpaceBeforeBreak rest := by
  simp only [SpaceBeforeBreak, List.infix_cons_iff, List.cons_prefix_cons, exists_or,
    List.singleton_prefix_iff_head?_eq_some, exists_and_right]
  refine or_congr_left (and_congr_left fun _ => ?_)
  cases here <;> simp [Trivia.isWhitespace]

theorem not_spaceBeforeBreak_clearBeforeBreaks (run : Run) :
    ¬SpaceBeforeBreak (clearBeforeBreaks run) := by
  induction run with
  | nil => simp [SpaceBeforeBreak]
  | cons here rest ih =>
      rw [clearBeforeBreaks_cons, consBeforeBreak]
      split
      · exact ih
      · rename_i apart
        rw [spaceBeforeBreak_cons]
        rintro (⟨space, broken⟩ | inner)
        · exact apart (by simp [space, broken, Trivia.isLineBreak])
        · exact ih inner

/-- The sweep after line breaks never changes the first item. -/
theorem head?_clearAfterBreaks (run : Run) : (clearAfterBreaks run).head? = run.head? := by
  cases run with
  | nil => rw [clearAfterBreaks_nil]
  | cons here rest =>
      rw [clearAfterBreaks_cons, consAfterBreak]
      split <;> rfl

theorem not_spaceBeforeBreak_clearAfterBreaks {run : Run} (clear : ¬SpaceBeforeBreak run) :
    ¬SpaceBeforeBreak (clearAfterBreaks run) := by
  induction run with
  | nil => rwa [clearAfterBreaks_nil]
  | cons here rest ih =>
      obtain ⟨apart, clearRest⟩ := not_or.mp (spaceBeforeBreak_cons.not.mp clear)
      have inner := ih clearRest
      rw [clearAfterBreaks_cons, consAfterBreak]
      split
      · rename_i touching
        have broken : here.isLineBreak = true := (Bool.and_eq_true_iff.mp touching).1
        rw [spaceBeforeBreak_cons]
        rintro (⟨space, -⟩ | tail)
        · simp [Trivia.not_isLineBreak_of_isWhitespace space] at broken
        · obtain ⟨width, within⟩ := tail
          exact inner ⟨width, within.trans (List.tail_suffix _).isInfix⟩
      · rw [spaceBeforeBreak_cons, head?_clearAfterBreaks]
        exact not_or.mpr ⟨apart, inner⟩

/-- Each sweep goes through any run without leaving it.  Clearing around line breaks loses only
whitespace beside line breaks, so the rest stays as it was, and none of it stays before one. -/
theorem sweeps_safe (run : Run) :
    endCommentsBelow? run.length run.toArray = some (endComments run).toArray ∧
      clearBeforeBelow? (run.length - 1) run.toArray = some (clearBeforeBreaks run).toArray ∧
      clearAfterBelow? ((clearBeforeBreaks run).length - 1) (clearBeforeBreaks run).toArray =
        some (clearAroundBreaks run).toArray ∧
      Trims [] run (clearAroundBreaks run) ∧
      (clearAroundBreaks run).unspaced = run.unspaced ∧
      ¬SpaceBeforeBreak (clearAroundBreaks run) := by
  refine ⟨?_, ?_, ?_, trims_clearAroundBreaks run, (trims_clearAroundBreaks run).unspaced_eq,
    not_spaceBeforeBreak_clearAfterBreaks (not_spaceBeforeBreak_clearBeforeBreaks run)⟩
  · rw [endCommentsBelow?_length, endComments_eq_foldr]
  · rw [clearBeforeBelow?_length, clearBeforeBreaks_eq_foldr]
  · rw [clearAfterBelow?_length, clearAroundBreaks, clearAfterBreaks_eq_foldr]

end Run
end GCode
