import GCode.Proofs.Core

/-!
# Rewording

Formatting decides by the sort of an item, by the width of whitespace and by the place of a token,
never by what a word or a comment says.  So it gives other words and other comments the same layout:
`Statement.format_reword_comm`.
-/

namespace GCode

/-- The same item, with another text if it is a comment. -/
def Trivia.reword (comments : String → String) : Trivia → Trivia
  | whitespace width => whitespace width
  | lineBreak => lineBreak
  | comment text => comment (comments text)

/-- The same run with other texts in its comments. -/
def Run.reword (comments : String → String) (run : Run) : Run := run.map (Trivia.reword comments)

/-- The same token with another word and with other texts in its comments. -/
def Token.reword (words comments : String → String) (token : Token) : Token where
  kind := token.kind
  text := words token.text
  leading := Run.reword comments token.leading
  trailing := Run.reword comments token.trailing

/-- The same instruction with other words and with other texts in its comments. -/
def Instruction.reword (words comments : String → String) (content : Instruction) :
    Instruction where
  command := content.command.reword words comments
  arguments := content.arguments.map (Token.reword words comments)

/-- The same statement with other words and with other texts in its comments. -/
def Statement.reword (words comments : String → String) : Statement → Statement
  | instruction content => instruction (content.reword words comments)
  | endOfFile trivia => endOfFile (Run.reword comments trivia)

section Comments

variable (comments : String → String)

namespace Trivia

@[simp] theorem kind_reword (item : Trivia) : (item.reword comments).kind = item.kind := by
  cases item <;> rfl

@[simp] theorem isWhitespace_reword (item : Trivia) :
    (item.reword comments).isWhitespace = item.isWhitespace := by
  cases item <;> rfl

@[simp] theorem isLineBreak_reword (item : Trivia) :
    (item.reword comments).isLineBreak = item.isLineBreak := by
  cases item <;> rfl

@[simp] theorem isComment_reword (item : Trivia) :
    (item.reword comments).isComment = item.isComment := by
  cases item <;> rfl

theorem reword_of_not_comment {item : Trivia} (silent : item.isComment = false) :
    item.reword comments = item := by
  cases item with
  | whitespace width => rfl
  | lineBreak => rfl
  | comment text => simp [isComment] at silent

end Trivia

namespace Run

@[simp] theorem reword_nil : reword comments [] = [] := rfl

@[simp] theorem reword_cons (item : Trivia) (run : Run) :
    reword comments (item :: run) = item.reword comments :: reword comments run := rfl

@[simp] theorem reword_append (front back : Run) :
    reword comments (front ++ back) = reword comments front ++ reword comments back :=
  List.map_append

theorem reword_toList_of_silent {item : Option Trivia}
    (silent : ∀ trivia ∈ item, trivia.isComment = false) :
    reword comments item.toList = item.toList := by
  cases item with
  | none => rfl
  | some trivia =>
      have same := Trivia.reword_of_not_comment comments (silent trivia rfl)
      rw [Option.toList_some, reword_cons, same, reword_nil]

theorem filter_reword {keeps : Trivia → Bool}
    (blind : ∀ item : Trivia, keeps (item.reword comments) = keeps item) (run : Run) :
    (reword comments run).filter keeps = reword comments (run.filter keeps) := by
  rw [reword, List.filter_map]
  exact congrArg (reword comments) (List.filter_congr fun item _ => blind item)

theorem head?_any_reword {test : Trivia → Bool}
    (blind : ∀ item : Trivia, test (item.reword comments) = test item) (run : Run) :
    (reword comments run).head?.any test = run.head?.any test := by
  cases run with
  | nil => rfl
  | cons item run => exact blind item

/-! ## Sweeps -/

/-- A sweep goes over other comments as its rule does. -/
theorem foldr_reword {rule : Trivia → Run → Run}
    (blind : ∀ here rest,
      rule (here.reword comments) (reword comments rest) = reword comments (rule here rest))
    (run : Run) :
    (reword comments run).foldr rule [] = reword comments (run.foldr rule []) := by
  induction run with
  | nil => rfl
  | cons here rest ih => rw [reword_cons, List.foldr_cons, ih, blind, List.foldr_cons]

theorem consEnded_reword (here : Trivia) (rest : Run) :
    consEnded (here.reword comments) (reword comments rest) =
      reword comments (consEnded here rest) := by
  rw [consEnded, consEnded, Trivia.isComment_reword,
    head?_any_reword comments (Trivia.isLineBreak_reword comments)]
  split <;> rfl

theorem consBeforeBreak_reword (here : Trivia) (rest : Run) :
    consBeforeBreak (here.reword comments) (reword comments rest) =
      reword comments (consBeforeBreak here rest) := by
  rw [consBeforeBreak, consBeforeBreak, Trivia.isWhitespace_reword,
    head?_any_reword comments (Trivia.isLineBreak_reword comments)]
  split <;> rfl

theorem consAfterBreak_reword (here : Trivia) (rest : Run) :
    consAfterBreak (here.reword comments) (reword comments rest) =
      reword comments (consAfterBreak here rest) := by
  rw [consAfterBreak, consAfterBreak, Trivia.isLineBreak_reword,
    head?_any_reword comments (Trivia.isWhitespace_reword comments)]
  split
  · rw [reword_cons, reword, reword, List.map_tail]
  · rfl

theorem endComments_reword (run : Run) :
    endComments (reword comments run) = reword comments (endComments run) := by
  rw [endComments_eq_foldr, endComments_eq_foldr, foldr_reword comments (consEnded_reword comments)]

theorem clearAroundBreaks_reword (run : Run) :
    clearAroundBreaks (reword comments run) = reword comments (clearAroundBreaks run) := by
  simp only [clearAroundBreaks, clearBeforeBreaks_eq_foldr, clearAfterBreaks_eq_foldr,
    foldr_reword comments (consBeforeBreak_reword comments),
    foldr_reword comments (consAfterBreak_reword comments)]

/-! ## Runs -/

theorem core_reword (exclusion : Exclusion) (run : Run) :
    core exclusion (reword comments run) = reword comments (core exclusion run) := by
  have blind : ∀ item : Trivia, (!exclusion.contains (item.reword comments).kind) =
      !exclusion.contains item.kind := fun item => by rw [Trivia.kind_reword]
  rw [core, kept, filter_reword comments blind, endComments_reword]
  rfl

theorem enclose_reword {opening closing : Option Trivia}
    (opens : ∀ item ∈ opening, item.isComment = false)
    (closes : ∀ item ∈ closing, item.isComment = false) (core : Run) :
    enclose opening closing (reword comments core) =
      reword comments (enclose opening closing core) := by
  rcases core with _ | ⟨_ | _ | text, rest⟩
  · exact (reword_toList_of_silent comments closes).symm
  · rfl
  · rfl
  · have same := reword_toList_of_silent comments opens
    rw [enclose, reword_append, same]
    rfl

theorem normalise_reword {opening closing : Option Trivia}
    (opens : ∀ item ∈ opening, item.isWhitespace = true)
    (closes : ∀ item ∈ closing, item.isComment = false) (exclusion : Exclusion) (run : Run) :
    normalise opening closing exclusion (reword comments run) =
      reword comments (normalise opening closing exclusion run) := by
  have silent : ∀ item ∈ opening, item.isComment = false := fun item member =>
    Trivia.not_isComment_of_isWhitespace (opens item member)
  rw [normalise_eq_enclose opens closes, normalise_eq_enclose opens closes, core_reword,
    enclose_reword comments silent closes]

theorem stripComments_reword (run : Run) :
    stripComments (reword comments run) = reword comments (stripComments run) := by
  have blind : ∀ item : Trivia, (!(item.reword comments).isComment) = !item.isComment :=
    fun item => by rw [Trivia.isComment_reword]
  rw [stripComments, filter_reword comments blind, clearAroundBreaks_reword]
  rfl

end Run
end Comments

section Words

variable (words comments : String → String) (configuration : Configuration)

namespace Token

theorem formattedLeading_reword (first : Bool) (token : Token) :
    (token.reword words comments).formattedLeading configuration first =
      Run.reword comments (token.formattedLeading configuration first) := by
  cases first with
  | false => exact Run.normalise_reword comments (by simp) (by simp) .inside token.leading
  | true => exact Run.normalise_reword comments (by simp) (by simp) (.outside configuration) _

theorem formattedTrailing_reword (last : Bool) (token : Token) :
    (token.reword words comments).formattedTrailing configuration last =
      Run.reword comments (token.formattedTrailing configuration last) := by
  cases last with
  | false => exact Run.normalise_reword comments (by simp) (by simp) .inside token.trailing
  | true =>
      exact Run.normalise_reword comments (by simp) (by simp [Trivia.isComment])
        (.outside configuration) token.trailing

theorem format_reword (first last : Bool) (token : Token) :
    (token.reword words comments).format configuration first last =
      (token.format configuration first last).reword words comments := by
  rw [format, formattedLeading_reword, formattedTrailing_reword]
  rfl

theorem formatArguments_reword (arguments : List Token) :
    formatArguments configuration (arguments.map (reword words comments)) =
      (formatArguments configuration arguments).map (reword words comments) := by
  fun_induction formatArguments configuration arguments with
  | case1 => rfl
  | case2 last => exact congrArg ([·]) (last.format_reword words comments configuration false true)
  | case3 argument next rest ih =>
      rw [List.map_cons, List.map_cons, formatArguments, format_reword, List.map_cons, ← ih,
        List.map_cons]

end Token

theorem Instruction.format_reword (content : Instruction) :
    (content.reword words comments).format configuration =
      (content.format configuration).reword words comments := by
  simp only [format, reword, List.isEmpty_map, Token.format_reword, Token.formatArguments_reword]

end Words

/-- Rewording and formatting commute.  Whatever is made of the words and of the comments, and
whatever stands before the statement, the layout is the same. -/
theorem Statement.format_reword_comm (words comments : String → String)
    (configuration : Configuration) (previous previous' : Option Statement)
    (statement : Statement) :
    (statement.reword words comments).format configuration previous =
      (statement.format configuration previous').reword words comments := by
  cases statement with
  | instruction content =>
      rw [reword, format, format, Instruction.format_reword]
      split <;> rfl
  | endOfFile trivia =>
      rw [reword, format, format, Run.stripComments_reword]
      split <;> rfl

end GCode
