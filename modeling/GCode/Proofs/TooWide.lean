import GCode.Proofs.CanonicalText
import GCode.Proofs.Writing

/-!
# Programs that cannot be written

Writing a program fails if a formatted statement holds whitespace that is too wide.  Where trivia is
recomputed, the instructions hold single spaces only, whatever the width of their whitespace was, so
only the end of a file can be too wide: `Program.write_fails_iff`.
-/

namespace GCode

theorem Instruction.Canonical.singleSpaced_runs {configuration : Configuration}
    {content : Instruction} (canonical : content.Canonical configuration) :
    ∀ run ∈ (Statement.instruction content).runs, run.SingleSpaced := by
  intro run member
  obtain ⟨token, among, side⟩ := List.mem_flatMap.mp member
  obtain ⟨leading, trailing⟩ := canonical.singleSpaced token among
  rcases List.mem_pair.mp side with rfl | rfl
  · exact leading
  · exact trailing

theorem Statement.holdsWide_endOfFile_iff {trivia : Run} :
    HoldsWide (.endOfFile trivia) ↔ trivia.HoldsWide := by
  simp [HoldsWide, runs]

namespace Program

theorem fits_eq_false_iff {program : Program} :
    fits program = false ↔ ∃ statement ∈ program, statement.HoldsWide := by
  rw [fits, List.all_eq_false]
  simp only [Bool.not_eq_true, Statement.fits_eq_false_iff]

theorem render_eq_error_iff {program : Program} :
    render program = .error .tooWide ↔ ∃ statement ∈ program, statement.HoldsWide := by
  rw [render, renderIf_eq_error_iff, fits_eq_false_iff]

section Normalising

variable {configuration : Configuration}
  (normalises : configuration.normaliseWhitespace = true)

include normalises

theorem canonical_of_mem_format {program : Program} {content : Instruction}
    (member : .instruction content ∈ program.format configuration) :
    content.Canonical configuration := by
  rw [format_eq_map] at member
  obtain ⟨statement, -, formats⟩ := List.mem_map.mp member
  cases statement with
  | instruction original =>
      rw [Statement.format_instruction normalises] at formats
      obtain rfl := Statement.instruction.inj formats
      exact original.canonical_format configuration
  | endOfFile trivia =>
      rw [Statement.format] at formats
      split at formats <;> contradiction

/-- Only the end of a file can be too wide after formatting. -/
theorem exists_holdsWide_format_iff (program : Program) :
    (∃ statement ∈ program.format configuration, statement.HoldsWide) ↔
      ∃ trivia, .endOfFile trivia ∈ program.format configuration ∧ trivia.HoldsWide := by
  constructor
  · rintro ⟨statement, member, wide⟩
    cases statement with
    | instruction content =>
        have fits := (canonical_of_mem_format normalises member).fits
        exact absurd wide (Statement.fits_iff.mp fits)
    | endOfFile trivia => exact ⟨trivia, member, Statement.holdsWide_endOfFile_iff.mp wide⟩
  · rintro ⟨trivia, member, wide⟩
    exact ⟨.endOfFile trivia, member, Statement.holdsWide_endOfFile_iff.mpr wide⟩

theorem fits_formatted (instructions : List Instruction) :
    fits ((instructions.map Statement.instruction).map (Statement.format configuration none)) =
      true := by
  rw [fits, List.map_map, List.all_map]
  refine List.all_eq_true.mpr fun content _ => ?_
  rw [Function.comp, Function.comp, Statement.format_instruction normalises]
  exact (Instruction.canonical_format configuration content).fits

end Normalising

/-- Writing fails if and only if trivia is not recomputed and some run of the program is too wide,
or trivia is recomputed and some end of a file is too wide after formatting.  The whitespace of a
recomputed instruction is one column wide everywhere, so instructions alone can always be
written. -/
theorem write_fails_iff (configuration : Configuration) (program : Program) :
    ((program.write configuration).text = .error .tooWide ↔
      (configuration.normaliseWhitespace = false ∧
          ∃ statement ∈ program, ∃ run ∈ statement.runs, run.HoldsWide) ∨
        (configuration.normaliseWhitespace = true ∧
          ∃ trivia, .endOfFile trivia ∈ program.format configuration ∧ trivia.HoldsWide)) ∧
      (configuration.normaliseWhitespace = true →
        (∀ content, .instruction content ∈ program.format configuration →
          ∀ run ∈ (Statement.instruction content).runs, run.SingleSpaced) ∧
        ∀ instructions : List Instruction, ∃ text,
          (write configuration (instructions.map .instruction)).text = .ok text) := by
  refine ⟨?_, fun normalises => ⟨?_, ?_⟩⟩
  · rw [write_text, render_eq_error_iff]
    cases normalises : configuration.normaliseWhitespace with
    | false =>
        rw [format_of_not_normalise normalises]
        simp [Statement.HoldsWide]
    | true =>
        rw [exists_holdsWide_format_iff normalises]
        simp
  · exact fun content member => (canonical_of_mem_format normalises member).singleSpaced_runs
  · intro instructions
    rw [write_text, format_eq_map]
    exact ⟨_, renderIf_of_fits (fits_formatted normalises instructions) _⟩

example :
    (write .standard
        [.instruction ⟨⟨.command, "G28", [], [.whitespace ⟨65536, by decide⟩]⟩, []⟩]).text.toOption =
      some "G28\n" := by
  decide +kernel

end Program
end GCode
