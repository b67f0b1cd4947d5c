import GCode.Proofs.Canonical
import GCode.Proofs.EndOfFile
import GCode.Proofs.Passes

/-!
# Formatting twice

Formatted instructions are canonical, so formatting them again changes nothing.  The trivia at the
end of a file is the one place where a second pass can still find something to do.
-/

namespace GCode
namespace Statement

theorem format_format_instruction (configuration : Configuration) (content : Instruction) :
    format configuration none (format configuration none (.instruction content)) =
      format configuration none (.instruction content) := by
  cases normalises : configuration.normaliseWhitespace with
  | false => rw [format_of_not_normalise normalises]
  | true =>
      rw [format_instruction normalises, format_instruction normalises,
        Instruction.format_of_canonical (Instruction.canonical_format configuration content)]

theorem format_format_endOfFile (configuration : Configuration) (trivia : Run) :
    format configuration none (format configuration none (.endOfFile trivia)) =
        format configuration none (.endOfFile trivia) ↔
      (configuration.normaliseWhitespace = true → configuration.removeAllComments = true →
        ¬trivia.Overhangs) := by
  by_cases strips :
      configuration.normaliseWhitespace = true ∧ configuration.removeAllComments = true
  · simp [format, strips, Run.stripComments_stripComments]
  · have kept : ∀ run, format configuration none (.endOfFile run) = .endOfFile run := by
      intro run
      simp [format, strips]
    simp only [kept, true_iff]
    exact fun normalises removes => absurd ⟨normalises, removes⟩ strips

end Statement

namespace Program

/-- A second pass changes nothing, unless comments are removed and two whitespace items follow the
last line break at the end of the file. -/
theorem format_format_eq_iff (configuration : Configuration) (program : Program) :
    format configuration (format configuration program) = format configuration program ↔
      (configuration.normaliseWhitespace = true → configuration.removeAllComments = true →
        ∀ trivia, .endOfFile trivia ∈ program → ¬Run.Overhangs trivia) := by
  rw [format_eq_map, format_eq_map, List.map_map, List.map_inj_left]
  constructor
  · intro settled normalises removes trivia member
    have twice := settled _ member
    exact (Statement.format_format_endOfFile configuration trivia).mp twice normalises removes
  · intro tidy statement member
    cases statement with
    | instruction content => exact Statement.format_format_instruction configuration content
    | endOfFile trivia =>
        exact (Statement.format_format_endOfFile configuration trivia).mpr
          fun normalises removes => tidy normalises removes trivia member

/-- Two spaces behind a line break at the end of the file take two passes. -/
theorem format_format_ne_of_overhang :
    format ⟨true, true⟩ (format ⟨true, true⟩ [.endOfFile [.lineBreak, .singleSpace, .singleSpace]]) ≠
      format ⟨true, true⟩ [.endOfFile [.lineBreak, .singleSpace, .singleSpace]] := by
  decide +kernel

end Program
end GCode
