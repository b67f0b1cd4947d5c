import GCode.Proofs.Canonical

/-!
# The core of a run

The core of a run is what its position keeps, with a line break behind each comment that has none.
Recomputing a run encloses its core: the opening comes before a core that starts with a comment,
and the closing stands in for a core that is empty.
-/

namespace GCode
namespace Run

/-- What a position keeps of a run, with a line break behind each comment that has none. -/
def core (exclusion : Exclusion) (run : Run) : Run := endComments (kept exclusion run)

/-- A core at a place that has an opening and a closing. -/
def enclose (opening closing : Option Trivia) : Run → Run
  | [] => closing.toList
  | .comment text :: rest => opening.toList ++ .comment text :: rest
  | first :: rest => first :: rest

@[simp] theorem enclose_none (core : Run) : enclose none none core = core := by
  rcases core with _ | ⟨_ | _ | _, rest⟩ <;> rfl

theorem framed_eq_enclose (opening closing : Option Trivia) (row : List Block) :
    Block.framed opening closing row = enclose opening closing (Block.run row) := by
  rcases row with _ | ⟨_ | _, row⟩ <;> rfl

theorem normalise_eq_enclose {opening closing : Option Trivia}
    (opens : ∀ item ∈ opening, item.isWhitespace = true)
    (closes : ∀ item ∈ closing, item.isComment = false) (exclusion : Exclusion) (run : Run) :
    normalise opening closing exclusion run = enclose opening closing (core exclusion run) := by
  rw [normalise_eq_framed opens closes, framed_eq_enclose, core,
    endComments_eq_run_blocks (bare_kept exclusion run)]

theorem sublist_enclose (opening closing : Option Trivia) (core : Run) :
    core.Sublist (enclose opening closing core) := by
  rcases core with _ | ⟨_ | _ | text, rest⟩
  · exact List.nil_sublist _
  · exact List.Sublist.refl _
  · exact List.Sublist.refl _
  · exact List.sublist_append_right _ _

/-! ## Ending comments, item by item -/

theorem endComments_cons_of_silent {here : Trivia} (silent : here.isComment = false) (rest : Run) :
    endComments (here :: rest) = here :: endComments rest := by
  simp [endComments_cons, consEnded, silent]

theorem endComments_comment_cons (text : String) (rest : Run) :
    endComments (.comment text :: rest) =
      if rest.head? = some .lineBreak then .comment text :: endComments rest
      else .comment text :: .lineBreak :: endComments rest := by
  rw [endComments_cons, consEnded, head?_endComments]
  rcases rest with _ | ⟨_ | _ | _, rest⟩ <;> rfl

theorem sublist_endComments (run : Run) : run.Sublist (endComments run) := by
  induction run with
  | nil => simp
  | cons here rest ih =>
      rw [endComments_cons, consEnded]
      split
      · exact (ih.cons .lineBreak).cons_cons here
      · exact ih.cons_cons here

end Run

namespace Instruction

/-- The run before a formatted command is the core of the run that was there. -/
theorem leading_format (configuration : Configuration) (content : Instruction) :
    (content.format configuration).command.leading =
      Run.core (.outside configuration) content.command.leading := by
  have recomputed : (content.format configuration).command.leading =
      Run.normalise none none (.outside configuration) content.command.leading := rfl
  rw [recomputed, Run.normalise_eq_enclose (by simp) (by simp), Run.enclose_none]

/-- The run behind the last formatted token is the core of the run that was there, with a space
before a comment that comes first, and a line break in place of nothing. -/
theorem trailing_format (configuration : Configuration) (content : Instruction) :
    (content.format configuration).last.trailing =
      Run.enclose (some .singleSpace) (some .lineBreak)
        (Run.core (.outside configuration) content.last.trailing) := by
  have recomputed : (content.format configuration).last.trailing =
      Run.normalise (some .singleSpace) (some .lineBreak) (.outside configuration)
        content.last.trailing := by
    cases content using lastCases with
    | alone command => rfl
    | followed command front last =>
        rw [format_followed, last_followed, last_followed]
        rfl
  rw [recomputed, Run.normalise_eq_enclose (by simp)]
  simp [Trivia.isComment]

end Instruction
end GCode
