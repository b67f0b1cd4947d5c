import GCode.Proofs.Core
import GCode.Proofs.Words

/-!
# What formatting tells apart

Formatting sees of an instruction its words and what is visible of the runs at its two ends.  The
visible part of a run is described here in one pass, without the sweeps.  Instructions that differ
in anything else are formatted to the same, and others never are: `Statement.format_eq_format_iff`.
-/

namespace GCode
namespace Run

/-- A run without its whitespace. -/
def unspaced (run : Run) : Run := run.filter fun item => !item.isWhitespace

/-- A run with a line break added behind each comment that none follows directly. -/
def withEnds : Run → Run
  | [] => []
  | .comment text :: .lineBreak :: rest => .comment text :: .lineBreak :: withEnds rest
  | .comment text :: rest => .comment text :: .lineBreak :: withEnds rest
  | item :: rest => item :: withEnds rest

/-- What formatting sees of a run at an end of an instruction. -/
def visible (configuration : Configuration) (run : Run) : Run :=
  withEnds (run.unspaced.filter fun item => !(configuration.removeAllComments && item.isComment))

/-- A run, or a single line break if it is empty. -/
def orLineBreak : Run → Run
  | [] => [.lineBreak]
  | item :: rest => item :: rest

theorem endComments_eq_withEnds (run : Run) : endComments run = withEnds run := by
  fun_induction withEnds run with
  | case1 => exact endComments_nil
  | case2 text rest ih =>
      rw [endComments_comment_cons, if_pos List.head?_cons, endComments_cons_of_silent rfl, ih]
  | case3 text rest unbroken ih =>
      have goesOn : rest.head? ≠ some .lineBreak := fun found => by
        obtain ⟨back, rfl⟩ := List.head?_eq_some_iff.mp found
        exact unbroken back rfl
      rw [endComments_comment_cons, if_neg goesOn, ih]
  | case4 item rest _ noComment ih =>
      have silent : item.isComment = false := by
        cases item with
        | whitespace width => rfl
        | lineBreak => rfl
        | comment text => exact (noComment text rfl).elim
      rw [endComments_cons_of_silent silent, ih]

theorem kept_outside (configuration : Configuration) (run : Run) :
    kept (.outside configuration) run =
      run.unspaced.filter fun item => !(configuration.removeAllComments && item.isComment) := by
  rw [kept, unspaced, List.filter_filter]
  refine List.filter_congr fun item _ => ?_
  cases item <;>
    simp [Trivia.kind, Exclusion.contains, Exclusion.outside, Trivia.isWhitespace, Trivia.isComment]

theorem core_outside (configuration : Configuration) (run : Run) :
    core (.outside configuration) run = run.visible configuration := by
  rw [core, endComments_eq_withEnds, kept_outside, visible]

theorem bare_visible (configuration : Configuration) (run : Run) :
    Bare (run.visible configuration) := by
  rw [← core_outside, core, endComments_eq_run_blocks (bare_kept _ run)]
  exact bare_run _

theorem unspaced_of_bare {run : Run} (bare : run.Bare) : run.unspaced = run :=
  List.filter_eq_self.mpr fun item member => by simp [bare item member]

/-- Without its whitespace, an enclosed run shows what it encloses. -/
theorem unspaced_enclose {core : Run} (bare : core.Bare) :
    unspaced (enclose (some .singleSpace) (some .lineBreak) core) = core.orLineBreak := by
  rcases core with _ | ⟨_ | _ | text, rest⟩
  · rfl
  · exact unspaced_of_bare bare
  · exact unspaced_of_bare bare
  · exact unspaced_of_bare bare

theorem enclose_orLineBreak (opening : Option Trivia) (core : Run) :
    enclose opening (some .lineBreak) core.orLineBreak =
      enclose opening (some .lineBreak) core := by
  cases core <;> rfl

/-- Enclosing runs without whitespace makes no difference but one: it puts a line break in the
place of nothing. -/
theorem enclose_eq_enclose_iff {first second : Run} (bare : first.Bare) (bare' : second.Bare) :
    enclose (some .singleSpace) (some .lineBreak) first =
        enclose (some .singleSpace) (some .lineBreak) second ↔
      first.orLineBreak = second.orLineBreak := by
  constructor
  · intro same
    rw [← unspaced_enclose bare, same, unspaced_enclose bare']
  · intro same
    rw [← enclose_orLineBreak, same, enclose_orLineBreak]

end Run

namespace Instruction

/-- Two instructions have the same words, and the same is visible of them before their commands and
behind their last tokens, where nothing looks like a line break. -/
structure LooksLike (configuration : Configuration) (first second : Instruction) : Prop where
  /-- The tokens have the same kinds and texts. -/
  words : first.words = second.words
  /-- The same is visible before the commands. -/
  leading : first.command.leading.visible configuration =
    second.command.leading.visible configuration
  /-- The same is visible behind the last tokens. -/
  trailing : (first.last.trailing.visible configuration).orLineBreak =
    (second.last.trailing.visible configuration).orLineBreak

theorem format_eq_format_iff_looksLike {configuration : Configuration}
    {first second : Instruction} :
    first.format configuration = second.format configuration ↔
      first.LooksLike configuration second := by
  have canonical := first.canonical_format configuration
  rw [canonical.eq_iff (second.canonical_format configuration), words_format, words_format,
    leading_format, leading_format, trailing_format, trailing_format, Run.core_outside,
    Run.core_outside, Run.core_outside, Run.core_outside,
    Run.enclose_eq_enclose_iff (Run.bare_visible _ _) (Run.bare_visible _ _)]
  exact ⟨fun ⟨words, leading, trailing⟩ => ⟨words, leading, trailing⟩,
    fun alike => ⟨alike.words, alike.leading, alike.trailing⟩⟩

theorem LooksLike.of_unspaced (configuration : Configuration) {first second : Instruction}
    (words : first.words = second.words)
    (leading : first.command.leading.unspaced = second.command.leading.unspaced)
    (trailing : first.last.trailing.unspaced = second.last.trailing.unspaced) :
    first.LooksLike configuration second where
  words := words
  leading := by rw [Run.visible, leading, Run.visible]
  trailing := by rw [Run.visible, trailing, Run.visible]

end Instruction

/-- Formatting gives the same for two instructions if and only if they look alike, whatever stands
before them.  So neither whitespace matters nor any run between the tokens. -/
theorem Statement.format_eq_format_iff {configuration : Configuration}
    (normalises : configuration.normaliseWhitespace = true) (previous previous' : Option Statement)
    (first second : Instruction) :
    (format configuration previous (.instruction first) =
        format configuration previous' (.instruction second) ↔
      first.LooksLike configuration second) ∧
      (first.words = second.words →
        first.command.leading.unspaced = second.command.leading.unspaced →
        first.last.trailing.unspaced = second.last.trailing.unspaced →
        format configuration previous (.instruction first) =
          format configuration previous' (.instruction second)) := by
  have exact : format configuration previous (.instruction first) =
        format configuration previous' (.instruction second) ↔
      first.LooksLike configuration second := by
    rw [format_instruction normalises, format_instruction normalises, instruction.injEq,
      Instruction.format_eq_format_iff_looksLike]
  exact ⟨exact, fun words leading trailing =>
    exact.mpr (.of_unspaced configuration words leading trailing)⟩

/-- The move `Instruction.roughMove` without whitespace and without the trivia between its words. -/
def Instruction.bareMove : Instruction where
  command := { kind := .command, text := "G1", leading := [.comment " start", .lineBreak] }
  arguments :=
    [{ kind := .argument, text := "X10" },
      { kind := .argument
        text := "Y20"
        trailing := [.comment " move", .comment " done", .lineBreak] }]

theorem Statement.format_roughMove_eq_bareMove :
    Configuration.standard.normaliseWhitespace = true ∧
      Instruction.roughMove.LooksLike .standard .bareMove ∧
      format .standard none (.instruction .roughMove) =
        format .standard (some (.endOfFile [])) (.instruction .bareMove) := by
  have alike : Instruction.roughMove.LooksLike .standard .bareMove :=
    ⟨by decide, by decide, by decide⟩
  exact ⟨rfl, alike, (format_eq_format_iff rfl none _ .roughMove .bareMove).1.mpr alike⟩

end GCode
