import GCode.Proofs.Core

/-!
# How an instruction ends

The run behind the last token of a formatted instruction ends with a line break.  Formatting puts
one there if it is missing and keeps all that are there, so the run ends with two line breaks
exactly if what is kept of it does.  The run starts with a space and a comment if what is kept of
it starts with a comment, and with a line break otherwise.
-/

namespace GCode
namespace Run

/-- A single line break is never the outcome of ending a comment. -/
theorem endComments_eq_lineBreak_iff {run : Run} :
    endComments run = [.lineBreak] ↔ run = [.lineBreak] := by
  constructor
  · intro ended
    have first : run.head? = some .lineBreak := by rw [← head?_endComments, ended, List.head?_cons]
    obtain ⟨rest, rfl⟩ := List.head?_eq_some_iff.mp first
    rw [endComments_cons_of_silent rfl, List.cons_eq_cons] at ended
    have nothing : rest.Sublist [] := ended.2 ▸ sublist_endComments rest
    rw [List.sublist_nil.mp nothing]
  · rintro rfl
    rw [endComments_cons_of_silent rfl, endComments_nil]

/-- Ending comments brings in no second line break at the end of a run. -/
theorem lineBreaks_suffix_endComments (run : Run) :
    [.lineBreak, .lineBreak] <:+ endComments run ↔ [.lineBreak, .lineBreak] <:+ run := by
  induction run with
  | nil => rw [endComments_nil]
  | cons here rest ih =>
      cases here with
      | whitespace width =>
          rw [endComments_cons_of_silent rfl, List.suffix_cons_iff, List.suffix_cons_iff, ih]
          simp
      | lineBreak =>
          rw [endComments_cons_of_silent rfl, List.suffix_cons_iff, List.suffix_cons_iff, ih]
          simp only [List.cons.injEq, true_and, eq_comm (a := [Trivia.lineBreak]),
            endComments_eq_lineBreak_iff]
      | comment text =>
          rw [endComments_comment_cons]
          by_cases broken : rest.head? = some .lineBreak
          · rw [if_pos broken, List.suffix_cons_iff, List.suffix_cons_iff, ih]
            simp
          · -- The line break put in does not meet another one, so nothing new ends the run.
            have other : [.lineBreak] ≠ endComments rest := by
              intro single
              rw [endComments_eq_lineBreak_iff.mp single.symm] at broken
              exact broken rfl
            rw [if_neg broken, List.suffix_cons_iff, List.suffix_cons_iff, List.suffix_cons_iff, ih]
            simp [other]

theorem head?_core (exclusion : Exclusion) (run : Run) :
    (core exclusion run).head? = (kept exclusion run).head? := by
  rw [core, head?_endComments]

theorem lineBreaks_suffix_enclose (core : Run) :
    [.lineBreak, .lineBreak] <:+ enclose (some .singleSpace) (some .lineBreak) core ↔
      [.lineBreak, .lineBreak] <:+ core := by
  cases core with
  | nil => simp [enclose, List.suffix_cons_iff]
  | cons first rest =>
      cases first with
      | whitespace width => rfl
      | lineBreak => rfl
      | comment text =>
          rw [enclose, Option.toList_some, List.singleton_append, List.suffix_cons_iff]
          simp [Trivia.singleSpace]

theorem space_comment_prefix_enclose {core : Run}
    (solid : ∀ width, core.head? ≠ some (.whitespace width)) (text : String) :
    [.singleSpace, .comment text] <+: enclose (some .singleSpace) (some .lineBreak) core ↔
      core.head? = some (.comment text) := by
  cases core with
  | nil => simp [enclose, Trivia.singleSpace]
  | cons first rest =>
      cases first with
      | whitespace width => exact absurd rfl (solid width)
      | lineBreak => simp [enclose, Trivia.singleSpace]
      | comment other => simp [enclose, List.cons_prefix_cons, eq_comm]

theorem head?_kept_ne_whitespace (exclusion : Exclusion) (run : Run) (width : Width) :
    (kept exclusion run).head? ≠ some (.whitespace width) := by
  intro first
  have member : .whitespace width ∈ kept exclusion run := List.mem_of_head? first
  simpa [Trivia.isWhitespace] using bare_kept exclusion run _ member

theorem Closes.lineBreak_suffix {configuration : Configuration} {run : Run}
    (closes : run.Closes configuration) : [.lineBreak] <:+ run := by
  obtain ⟨first, row, _, rfl⟩ := closes
  obtain ⟨front, ends⟩ := List.getLast?_eq_some_iff.mp (getLast?_run_cons first row)
  rw [ends, ← List.append_assoc]
  exact List.suffix_append _ _

theorem Closes.starts {configuration : Configuration} {run : Run}
    (closes : run.Closes configuration) :
    [.lineBreak] <+: run ∨ ∃ text, [.singleSpace, .comment text] <+: run := by
  obtain ⟨first, row, _, rfl⟩ := closes
  cases first with
  | blank => exact .inl ⟨Block.run row, rfl⟩
  | comment text => exact .inr ⟨text, .lineBreak :: Block.run row, rfl⟩

end Run

/-- A homing command whose comment has its own line, before a blank line. -/
def Instruction.homing : Instruction where
  command :=
    { kind := .command
      text := "G28"
      trailing := [.lineBreak, .comment " home", .lineBreak, .lineBreak] }
  arguments := []

namespace Statement

/-- The run behind the last token of a formatted instruction ends with a line break, and with two
exactly if what is kept of it does.  It starts with a space and a comment exactly if what is kept
of it starts with that comment, and with a line break otherwise. -/
theorem format_instruction_ends (removes : Bool) (previous : Option Statement)
    (content : Instruction) :
    ∃ formatted : Instruction,
      format ⟨true, removes⟩ previous (.instruction content) = .instruction formatted ∧
      let kept := Run.kept (.outside ⟨true, removes⟩) content.last.trailing
      let closing := formatted.last.trailing
      [.lineBreak] <:+ closing ∧
      ([.lineBreak, .lineBreak] <:+ closing ↔ [.lineBreak, .lineBreak] <:+ kept) ∧
      (∀ text, [.singleSpace, .comment text] <+: closing ↔ [.comment text] <+: kept) ∧
      ([.lineBreak] <+: closing ∨ ∃ text, [.singleSpace, .comment text] <+: closing) := by
  refine ⟨content.format ⟨true, removes⟩, rfl, ?_⟩
  have closes := (content.canonical_format ⟨true, removes⟩).closes
  refine ⟨closes.lineBreak_suffix, ?_, fun text => ?_, closes.starts⟩
  · rw [Instruction.trailing_format, Run.lineBreaks_suffix_enclose, Run.core,
      Run.lineBreaks_suffix_endComments]
  · have solid := Run.head?_kept_ne_whitespace (.outside ⟨true, removes⟩) content.last.trailing
    rw [Instruction.trailing_format,
      Run.space_comment_prefix_enclose (by simpa [Run.head?_core] using solid), Run.head?_core,
      List.singleton_prefix_iff_head?_eq_some]

/-- A formatted instruction can end with two line breaks, and a comment behind it can have a line
of its own. -/
theorem format_homing_keeps_lines :
    ∃ formatted : Instruction,
      format ⟨true, false⟩ none (.instruction .homing) = .instruction formatted ∧
      let closing := formatted.last.trailing
      ¬([.lineBreak] <:+ closing ∧ ¬[.lineBreak, .lineBreak] <:+ closing) ∧
      ¬((∃ text, .comment text ∈ closing) → ∃ text, [.singleSpace, .comment text] <+: closing) := by
  refine ⟨.homing, by decide +kernel, ?_, ?_⟩
  · rintro ⟨-, once⟩
    exact once ⟨[.lineBreak, .comment " home"], rfl⟩
  · intro spaced
    obtain ⟨text, starts⟩ := spaced ⟨" home", by decide⟩
    simp [Instruction.homing, Instruction.last, Trivia.singleSpace] at starts

end Statement
end GCode
