import GCode.Proofs.Conservation
import GCode.Proofs.Words

/-!
# Keeping and removing comments

Removing comments leaves nothing that keeping them would change.  In the other order, line breaks
that were added behind comments survive the comments, so removing comments after keeping them gives
the same as removing them at once exactly if no such line break stays visible:
`Statement.format_keeping_removing`.
-/

namespace GCode
namespace Run

/-- Every comment of a run is followed, whitespace aside, by a line break. -/
def Terminated (run : Run) : Prop :=
  ∀ front text back, run = front ++ .comment text :: back →
    (back.find? fun next => !next.isWhitespace) = some .lineBreak

theorem terminated_cons {here : Trivia} {rest : Run} :
    Terminated (here :: rest) ↔
      (∀ text, here = .comment text →
        (rest.find? fun next => !next.isWhitespace) = some .lineBreak) ∧ Terminated rest := by
  constructor
  · intro terminated
    refine ⟨fun text comment => terminated [] text rest (by rw [comment]; rfl), ?_⟩
    rintro front text back rfl
    exact terminated (here :: front) text back rfl
  · rintro ⟨first, later⟩ front text back split
    cases front with
    | nil =>
        obtain ⟨comment, rfl⟩ := List.cons_eq_cons.mp split
        exact first text comment
    | cons other front => exact later front text back (List.cons_eq_cons.mp split).2

theorem unended_eq_zero_iff {run : Run} : unended run = 0 ↔ run.Terminated := by
  induction run with
  | nil => simp [unended, Terminated]
  | cons here rest ih =>
      rw [terminated_cons]
      cases here with
      | whitespace width => simp [unended, ih]
      | lineBreak => simp [unended, ih]
      | comment text =>
          rw [unended]
          split
          · rename_i ends
            simp [ends, ih]
          · rename_i goesOn
            simp [goesOn]

/-- Without line breaks no comment of a run is ended. -/
theorem unended_of_unbroken {run : Run} (unbroken : .lineBreak ∉ run) :
    unended run = (comments run).length := by
  induction run with
  | nil => rfl
  | cons here rest ih =>
      rw [List.mem_cons, not_or] at unbroken
      have later := ih unbroken.2
      cases here with
      | whitespace width => exact later
      | lineBreak => exact absurd rfl unbroken.1
      | comment text =>
          have goesOn : (rest.find? fun next => !next.isWhitespace) ≠ some .lineBreak :=
            fun found => unbroken.2 (List.mem_of_find?_eq_some found)
          rw [unended, if_neg goesOn, later]
          rfl

/-! ## Runs without comments -/

/-- Where comments are removed, the line breaks are all that is kept. -/
theorem kept_removing (run : Run) :
    kept (.outside ⟨true, true⟩) run = List.replicate (run.count .lineBreak) .lineBreak := by
  rw [← List.filter_beq, kept]
  refine List.filter_congr fun item _ => ?_
  cases item <;> rfl

theorem endComments_of_silent {run : Run} (silent : run.Silent) : endComments run = run := by
  induction run with
  | nil => exact endComments_nil
  | cons here rest ih =>
      obtain ⟨first, later⟩ := List.forall_mem_cons.mp silent
      rw [endComments_cons_of_silent first, ih later]

theorem core_removing (run : Run) :
    core (.outside ⟨true, true⟩) run = List.replicate (run.count .lineBreak) .lineBreak := by
  rw [core, endComments_of_silent (silent_kept rfl run), kept_removing]

theorem enclose_replicate (opening : Option Trivia) (count : Nat) :
    enclose opening (some .lineBreak) (List.replicate count .lineBreak) =
      List.replicate (max 1 count) .lineBreak := by
  cases count with
  | zero => rfl
  | succ count =>
      rw [Nat.max_eq_right (Nat.le_add_left 1 count)]
      rfl

end Run

namespace Instruction

variable (content : Instruction)

theorem leading_removing :
    (content.format ⟨true, true⟩).command.leading =
      List.replicate (content.command.leading.count .lineBreak) .lineBreak := by
  rw [leading_format, Run.core_removing]

theorem trailing_removing :
    (content.format ⟨true, true⟩).last.trailing =
      List.replicate (max 1 (content.last.trailing.count .lineBreak)) .lineBreak := by
  rw [trailing_format, Run.core_removing, Run.enclose_replicate]

theorem count_leading_keeping :
    (content.format ⟨true, false⟩).command.leading.count .lineBreak =
      content.command.leading.count .lineBreak + content.command.leading.unended := by
  rw [leading_format, Run.count_core rfl rfl]

theorem count_trailing_keeping :
    (content.format ⟨true, false⟩).last.trailing.count .lineBreak =
      max 1 (content.last.trailing.count .lineBreak + content.last.trailing.unended) := by
  rw [count_trailing_format, Run.count_core rfl rfl]

/-- An instruction in the form without comments is also in the form that allows them. -/
theorem Canonical.keeping {content : Instruction} (canonical : content.Canonical ⟨true, true⟩) :
    content.Canonical ⟨true, false⟩ := by
  have admits : ∀ row, Configuration.Admits ⟨true, false⟩ row := fun _ removes =>
    absurd removes Bool.false_ne_true
  obtain ⟨opening, _, leading⟩ := canonical.opens
  obtain ⟨first, row, _, trailing⟩ := canonical.closes
  exact {
    arguments_leading := canonical.arguments_leading
    between := canonical.between
    opens := ⟨opening, admits opening, leading⟩
    closes := ⟨first, row, admits (first :: row), trailing⟩ }

theorem format_removing_keeping :
    (content.format ⟨true, true⟩).format ⟨true, false⟩ = content.format ⟨true, true⟩ :=
  format_of_canonical (content.canonical_format ⟨true, true⟩).keeping

/-- The line breaks that keeping comments adds stay when the comments are removed, but for the one
that an instruction ends with in any case. -/
theorem format_keeping_removing_iff :
    (content.format ⟨true, false⟩).format ⟨true, true⟩ = content.format ⟨true, true⟩ ↔
      content.command.leading.unended = 0 ∧
        (content.last.trailing.unended = 0 ∨
          content.last.trailing.count .lineBreak = 0 ∧ content.last.trailing.unended = 1) := by
  have canonical := (content.format ⟨true, false⟩).canonical_format ⟨true, true⟩
  rw [canonical.eq_iff (content.canonical_format ⟨true, true⟩), leading_removing,
    leading_removing, trailing_removing, trailing_removing, count_leading_keeping,
    count_trailing_keeping, words_format, words_format, words_format, List.replicate_left_inj,
    List.replicate_left_inj]
  constructor
  · rintro ⟨-, leading, trailing⟩
    constructor <;> omega
  · rintro ⟨leading, trailing⟩
    refine ⟨rfl, ?_, ?_⟩ <;> omega

end Instruction

namespace Statement

/-- Each comment before the command is ended by a line break, and so is each comment behind the
last token, or there is one comment and no line break. -/
def CommentsEnd : Statement → Prop
  | instruction content =>
      content.command.leading.Terminated ∧
        (content.last.trailing.Terminated ∨
          (content.last.trailing.comments.length = 1 ∧ .lineBreak ∉ content.last.trailing))
  | endOfFile _ => True

/-- Keeping comments changes nothing where they have been removed.  Removing comments where they
have been kept gives the same as removing them at once, exactly if the comments of an instruction
are ended by its own line breaks, or the only one by the end of the instruction. -/
theorem format_keeping_removing (inner outer previous : Option Statement) (statement : Statement) :
    format ⟨true, false⟩ outer (format ⟨true, true⟩ inner statement) =
        format ⟨true, true⟩ previous statement ∧
      (format ⟨true, true⟩ outer (format ⟨true, false⟩ inner statement) =
          format ⟨true, true⟩ previous statement ↔
        statement.CommentsEnd) := by
  cases statement with
  | endOfFile trivia => exact ⟨rfl, iff_of_true rfl trivial⟩
  | instruction content =>
      refine ⟨congrArg instruction content.format_removing_keeping, ?_⟩
      have lone : content.last.trailing.count .lineBreak = 0 ∧ content.last.trailing.unended = 1 ↔
          content.last.trailing.comments.length = 1 ∧ .lineBreak ∉ content.last.trailing := by
        rw [List.count_eq_zero, and_comm]
        exact and_congr_left fun unbroken => by rw [Run.unended_of_unbroken unbroken]
      rw [format_instruction rfl, format_instruction rfl, format_instruction rfl,
        instruction.injEq, content.format_keeping_removing_iff, Run.unended_eq_zero_iff,
        Run.unended_eq_zero_iff, lone]
      rfl

example :
    format ⟨true, true⟩ none (format ⟨true, false⟩ none (.instruction .roughMove)) ≠
      format ⟨true, true⟩ none (.instruction .roughMove) := by
  decide +kernel

end Statement
end GCode
