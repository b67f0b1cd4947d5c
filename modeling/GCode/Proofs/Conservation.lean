import GCode.Proofs.CanonicalText
import GCode.Proofs.ClosingRun
import GCode.Proofs.EndOfFile
import GCode.Proofs.Passes
import Mathlib.Data.List.Forall2

/-!
# What formatting conserves

Formatting keeps the comments before the command and behind the last token of an instruction, with
their texts and in their order, and all line breaks there.  It adds a line break behind each comment
whose line goes on, and one behind an instruction that has none.  Where comments are removed, the
line breaks stay as they are.
-/

namespace GCode
namespace Run

/-- The texts of the comments of a run. -/
def comments (run : Run) : List String := run.filterMap Trivia.commentText?

/-- A run holds no comment. -/
def Silent (run : Run) : Prop := ∀ item ∈ run, item.isComment = false

/-- Every comment of a run is directly followed by a line break. -/
def Ended (run : Run) : Prop :=
  ∀ front text back, run = front ++ .comment text :: back → back.head? = some .lineBreak

/-- How many comments of a run are followed, whitespace aside, by no line break. -/
def unended : Run → Nat
  | [] => 0
  | .comment _ :: rest =>
      if (rest.find? fun next => !next.isWhitespace) = some .lineBreak then
        unended rest
      else
        unended rest + 1
  | _ :: rest => unended rest

example :
    unended [.comment "one", .singleSpace, .lineBreak, .comment "two", .comment "three"] = 2 := by
  decide

/-! ## Comments -/

theorem comments_endComments (run : Run) : comments (endComments run) = comments run := by
  induction run with
  | nil => rw [endComments_nil]
  | cons here rest ih =>
      cases here with
      | whitespace width => rw [endComments_cons_of_silent rfl]; exact ih
      | lineBreak => rw [endComments_cons_of_silent rfl]; exact ih
      | comment text =>
          have texts : text :: comments (endComments rest) = text :: comments rest := by rw [ih]
          rw [endComments_comment_cons]
          split <;> exact texts

theorem comments_kept {exclusion : Exclusion} (keeps : exclusion.comments = false) (run : Run) :
    comments (kept exclusion run) = comments run := by
  induction run with
  | nil => rfl
  | cons here rest ih =>
      cases here with
      | whitespace width => exact ih
      | lineBreak =>
          rw [kept, List.filter_cons]
          split <;> exact ih
      | comment text =>
          have stays : kept exclusion (.comment text :: rest) =
              .comment text :: kept exclusion rest := by
            simp [kept, Trivia.kind, Exclusion.contains, keeps]
          rw [stays]
          exact congrArg (text :: ·) ih

theorem comments_core {exclusion : Exclusion} (keeps : exclusion.comments = false) (run : Run) :
    comments (core exclusion run) = comments run := by
  rw [core, comments_endComments, comments_kept keeps]

theorem comments_enclose (width : Width) (core : Run) :
    comments (enclose (some (.whitespace width)) (some .lineBreak) core) = comments core := by
  rcases core with _ | ⟨_ | _ | _, rest⟩ <;> rfl

/-! ## Line breaks -/

theorem count_kept {exclusion : Exclusion} (keeps : exclusion.lineBreaks = false) (run : Run) :
    (kept exclusion run).count .lineBreak = run.count .lineBreak := by
  apply List.count_filter
  simp [Trivia.kind, Exclusion.contains, keeps]

theorem find?_solid_of_bare {run : Run} (bare : Bare run) :
    (run.find? fun next => !next.isWhitespace) = run.head? := by
  cases run with
  | nil => rfl
  | cons here rest => simp [(bare_cons.mp bare).1]

/-- Whitespace does not matter for whether a comment goes on. -/
theorem unended_kept {exclusion : Exclusion} (keepsBreaks : exclusion.lineBreaks = false)
    (keepsComments : exclusion.comments = false) (run : Run) :
    unended (kept exclusion run) = unended run := by
  have solid : (fun item : Trivia => !exclusion.contains item.kind) =
      fun item => !item.isWhitespace := by
    funext item
    cases item <;> simp [Trivia.kind, Exclusion.contains, Trivia.isWhitespace, keepsBreaks,
      keepsComments]
  rw [kept, solid]
  induction run with
  | nil => rfl
  | cons here rest ih =>
      cases here with
      | whitespace width => exact ih
      | lineBreak => exact ih
      | comment text =>
          rw [List.filter_cons_of_pos rfl, unended, unended, ih, List.find?_filter]
          simp

theorem unended_of_silent {run : Run} (silent : run.Silent) : unended run = 0 := by
  induction run with
  | nil => rfl
  | cons here rest ih =>
      obtain ⟨first, others⟩ := List.forall_mem_cons.mp silent
      cases here with
      | whitespace width => exact ih others
      | lineBreak => exact ih others
      | comment text => simp [Trivia.isComment] at first

/-- Ending comments adds one line break for each that goes on. -/
theorem count_endComments {run : Run} (bare : Bare run) :
    (endComments run).count .lineBreak = run.count .lineBreak + unended run := by
  induction run with
  | nil => rw [endComments_nil]; rfl
  | cons here rest ih =>
      obtain ⟨solid, bareRest⟩ := bare_cons.mp bare
      have inner := ih bareRest
      cases here with
      | whitespace width => simp [Trivia.isWhitespace] at solid
      | lineBreak =>
          rw [endComments_cons_of_silent rfl, List.count_cons_self, List.count_cons_self, unended,
            inner]
          · omega
          · simp
      | comment text =>
          rw [endComments_comment_cons, unended, find?_solid_of_bare bareRest]
          split
          · simp [inner]
          · simp [inner]
            omega

theorem count_core {exclusion : Exclusion} (keepsBreaks : exclusion.lineBreaks = false)
    (keepsComments : exclusion.comments = false) (run : Run) :
    (core exclusion run).count .lineBreak = run.count .lineBreak + unended run := by
  rw [core, count_endComments (bare_kept exclusion run), count_kept keepsBreaks,
    unended_kept keepsBreaks keepsComments]

theorem silent_kept {exclusion : Exclusion} (drops : exclusion.comments = true) (run : Run) :
    Silent (kept exclusion run) := by
  intro item member
  have survives := (List.mem_filter.mp member).2
  cases item with
  | whitespace width => rfl
  | lineBreak => rfl
  | comment text => simp [Trivia.kind, Exclusion.contains, drops] at survives

theorem count_core_of_drops {exclusion : Exclusion} (keepsBreaks : exclusion.lineBreaks = false)
    (drops : exclusion.comments = true) (run : Run) :
    (core exclusion run).count .lineBreak = run.count .lineBreak := by
  rw [core, count_endComments (bare_kept exclusion run), count_kept keepsBreaks,
    unended_of_silent (silent_kept drops run), Nat.add_zero]

/-- The closing gives a line break to a core that has none, and no more. -/
theorem count_enclose {width : Width} {core : Run}
    (closed : [.lineBreak] <:+ enclose (some (.whitespace width)) (some .lineBreak) core) :
    (enclose (some (.whitespace width)) (some .lineBreak) core).count .lineBreak =
      max 1 (core.count .lineBreak) := by
  have positive := List.count_pos_iff.mpr (closed.subset (List.mem_singleton_self Trivia.lineBreak))
  cases core with
  | nil => rfl
  | cons first rest =>
      have same : (enclose (some (.whitespace width)) (some .lineBreak) (first :: rest)).count
          .lineBreak = (first :: rest).count .lineBreak := by
        cases first <;> simp [enclose]
      omega

/-! ## Comments of canonical runs -/

theorem ended_of_silent {run : Run} (silent : run.Silent) : run.Ended := by
  rintro front text back rfl
  have loud := silent (.comment text) (by simp)
  simp [Trivia.isComment] at loud

theorem silent_nil : Silent [] := by simp [Silent]

theorem silent_space : Silent [.singleSpace] := by simp [Silent]

theorem ended_cons {here : Trivia} {rest : Run} (ended : Ended rest)
    (first : ∀ text, here = .comment text → rest.head? = some .lineBreak) :
    Ended (here :: rest) := by
  intro front text back split
  cases front with
  | nil =>
      obtain ⟨rfl, rfl⟩ := List.cons_eq_cons.mp split
      exact first text rfl
  | cons other front => exact ended front text back (List.cons_eq_cons.mp split).2

theorem ended_run (row : List Block) : Ended (Block.run row) := by
  induction row with
  | nil => exact ended_of_silent silent_nil
  | cons block row ih =>
      have broken : Ended (.lineBreak :: Block.run row) := ended_cons ih (by simp)
      cases block with
      | blank => exact broken
      | comment text => exact ended_cons broken fun _ _ => rfl

theorem silent_run {configuration : Configuration}
    (removes : configuration.removeAllComments = true) {row : List Block}
    (admits : configuration.Admits row) : Silent (Block.run row) := by
  intro item member
  cases item with
  | whitespace width => rfl
  | lineBreak => rfl
  | comment text => exact absurd (comment_mem_run_iff.mp member) (admits removes text)

theorem Opens.ended {configuration : Configuration} {run : Run}
    (opens : run.Opens configuration) : run.Ended := by
  obtain ⟨row, _, rfl⟩ := opens
  exact ended_run row

theorem Opens.silent {configuration : Configuration}
    (removes : configuration.removeAllComments = true) {run : Run}
    (opens : run.Opens configuration) : run.Silent := by
  obtain ⟨row, admits, rfl⟩ := opens
  exact silent_run removes admits

theorem Closes.ended {configuration : Configuration} {run : Run}
    (closes : run.Closes configuration) : run.Ended := by
  obtain ⟨first, row, _, rfl⟩ := closes
  have ended := ended_run (first :: row)
  split
  · exact ended
  · exact ended_cons ended (by simp [Trivia.singleSpace])

theorem Closes.silent {configuration : Configuration}
    (removes : configuration.removeAllComments = true) {run : Run}
    (closes : run.Closes configuration) : run.Silent := by
  obtain ⟨first, row, admits, rfl⟩ := closes
  have silent := silent_run removes admits
  split
  · exact silent
  · exact List.forall_mem_cons.mpr ⟨rfl, silent⟩

end Run

/-! ## Instructions -/

/-- The texts of the comments on both sides of a token. -/
def Token.comments (token : Token) : List String :=
  Run.comments token.leading ++ Run.comments token.trailing

theorem Token.flatMap_comments (first : Token) (others : List Token)
    (bare : ∀ token ∈ others, token.leading = [])
    (between : ∀ token ∈ (first :: others).dropLast, token.trailing = [.singleSpace]) :
    (first :: others).flatMap comments =
      Run.comments first.leading ++ Run.comments (others.getLastD first).trailing := by
  induction others generalizing first with
  | nil => simp [comments]
  | cons next others ih =>
      rw [List.dropLast_cons_cons, List.forall_mem_cons] at between
      rw [List.forall_mem_cons] at bare
      have inner : first.comments = Run.comments first.leading := by
        rw [comments, between.1]
        exact List.append_nil _
      rw [List.flatMap_cons, ih next bare.2 between.2, inner, bare.1]
      simp [Run.comments, List.getLast?_cons]

namespace Instruction

/-- The texts of all comments of an instruction, in the order of the text. -/
def comments (content : Instruction) : List String := content.tokens.flatMap Token.comments

variable {configuration : Configuration} {content : Instruction}

theorem comments_of_canonical (canonical : content.Canonical configuration) :
    content.comments = content.command.leading.comments ++ content.last.trailing.comments :=
  Token.flatMap_comments content.command content.arguments canonical.arguments_leading
    canonical.between

theorem count_trailing_format (configuration : Configuration) (content : Instruction) :
    (content.format configuration).last.trailing.count .lineBreak =
      max 1 ((Run.core (.outside configuration) content.last.trailing).count .lineBreak) := by
  have closed := (content.canonical_format configuration).closes.lineBreak_suffix
  rw [trailing_format] at closed ⊢
  exact Run.count_enclose closed

theorem comments_format {configuration : Configuration}
    (keeps : configuration.removeAllComments = false) (content : Instruction) :
    (content.format configuration).comments =
      content.command.leading.comments ++ content.last.trailing.comments := by
  have outside : (Exclusion.outside configuration).comments = false := keeps
  rw [comments_of_canonical (content.canonical_format configuration), leading_format,
    trailing_format, Run.comments_core outside, Trivia.singleSpace, Run.comments_enclose,
    Run.comments_core outside]

end Instruction

/-! ## Programs -/

/-- What formatting makes of a statement when it keeps comments. -/
inductive Statement.Keeps : Statement → Statement → Prop where
  /-- The comments at the two ends of an instruction stay, each with a line break behind it, and
  only the missing line breaks are added. -/
  | instruction {before after : Instruction}
      (comments : after.comments =
        before.command.leading.comments ++ before.last.trailing.comments)
      (ended : ∀ token ∈ after.tokens, token.leading.Ended ∧ token.trailing.Ended)
      (leading : after.command.leading.count .lineBreak =
        before.command.leading.count .lineBreak + before.command.leading.unended)
      (trailing : after.last.trailing.count .lineBreak =
        max 1 (before.last.trailing.count .lineBreak + before.last.trailing.unended))
      (order : (Run.kept ⟨false, false⟩ before.command.leading).Sublist after.command.leading ∧
        (Run.kept ⟨false, false⟩ before.last.trailing).Sublist after.last.trailing) :
      Keeps (.instruction before) (.instruction after)
  /-- The end of a file stays as it is. -/
  | endOfFile (trivia : Run) : Keeps (.endOfFile trivia) (.endOfFile trivia)

/-- What formatting makes of a statement when it removes comments. -/
inductive Statement.Silences : Statement → Statement → Prop where
  /-- An instruction keeps the line breaks at its two ends, and ends with one. -/
  | instruction {before after : Instruction}
      (silent : ∀ token ∈ after.tokens, token.leading.Silent ∧ token.trailing.Silent)
      (leading : after.command.leading.count .lineBreak =
        before.command.leading.count .lineBreak)
      (trailing : after.last.trailing.count .lineBreak =
        max 1 (before.last.trailing.count .lineBreak)) :
      Silences (.instruction before) (.instruction after)
  /-- The end of a file keeps its line breaks, and nothing new comes into it. -/
  | endOfFile {before after : Run} (silent : after.Silent)
      (lineBreaks : after.count .lineBreak = before.count .lineBreak)
      (order : after.Sublist before) :
      Silences (.endOfFile before) (.endOfFile after)

namespace Statement

theorem keeps_format (statement : Statement) :
    statement.Keeps (statement.format ⟨true, false⟩ none) := by
  cases statement with
  | endOfFile trivia => exact .endOfFile trivia
  | instruction content =>
      have canonical := content.canonical_format ⟨true, false⟩
      refine .instruction (content.comments_format rfl) ?_ ?_ ?_ ⟨?_, ?_⟩
      · exact canonical.forall_runs (Run.ended_of_silent Run.silent_nil)
          (Run.ended_of_silent Run.silent_space) canonical.opens.ended canonical.closes.ended
      · rw [Instruction.leading_format, Run.count_core rfl rfl]
      · rw [Instruction.count_trailing_format, Run.count_core rfl rfl]
      · rw [Instruction.leading_format]
        exact Run.sublist_endComments _
      · rw [Instruction.trailing_format]
        exact (Run.sublist_endComments _).trans (Run.sublist_enclose _ _ _)

theorem silences_format (statement : Statement) :
    statement.Silences (statement.format ⟨true, true⟩ none) := by
  cases statement with
  | endOfFile trivia =>
      exact .endOfFile (Run.isComment_of_mem_stripComments trivia) (Run.count_stripComments trivia)
        (Run.stripComments_sublist trivia)
  | instruction content =>
      have canonical := content.canonical_format ⟨true, true⟩
      refine .instruction ?_ ?_ ?_
      · exact canonical.forall_runs Run.silent_nil Run.silent_space (canonical.opens.silent rfl)
          (canonical.closes.silent rfl)
      · rw [Instruction.leading_format, Run.count_core_of_drops rfl rfl]
      · rw [Instruction.count_trailing_format, Run.count_core_of_drops rfl rfl]

end Statement

/-- Formatting loses, repeats and moves no comment and no line break that it keeps, statement by
statement. -/
theorem Program.format_conserves (program : Program) :
    List.Forall₂ Statement.Keeps program (program.format ⟨true, false⟩) ∧
      List.Forall₂ Statement.Silences program (program.format ⟨true, true⟩) := by
  rw [format_eq_map, format_eq_map, List.forall₂_map_right_iff, List.forall₂_map_right_iff]
  exact ⟨List.forall₂_same.mpr fun statement _ => statement.keeps_format,
    List.forall₂_same.mpr fun statement _ => statement.silences_format⟩

end GCode
