import GCode.Formatting
import GCode.Proofs.Blocks

/-!
# Canonical instructions

An instruction is canonical if its runs have the shape that formatting gives them: rows of blocks
at its two ends, single spaces after all tokens but the last, and nothing else.  Formatting always
reaches this form, and it changes an instruction exactly when the instruction does not have it.
-/

namespace GCode

/-- A row of blocks holds comments only if comments stay. -/
def Configuration.Admits (configuration : Configuration) (row : List Block) : Prop :=
  configuration.removeAllComments = true → ∀ text, Block.comment text ∉ row

namespace Run

/-- The canonical form before a command: a row of blocks. -/
def Opens (configuration : Configuration) (run : Run) : Prop :=
  ∃ row, configuration.Admits row ∧ run = Block.run row

/-- The canonical form after the last token: at least one block, with a space before it if it is a
comment. -/
def Closes (configuration : Configuration) (run : Run) : Prop :=
  ∃ first row, configuration.Admits (first :: row) ∧
    run = (if first = .blank then [] else [.singleSpace]) ++ Block.run (first :: row)

theorem admits_iff_keptBy {configuration : Configuration} {row : List Block} :
    configuration.Admits row ↔ ∀ block ∈ row, block.KeptBy (.outside configuration) := by
  constructor
  · intro admits block member
    cases block with
    | blank => rfl
    | comment text =>
        cases removes : configuration.removeAllComments with
        | true => exact absurd member (admits removes text)
        | false => exact removes
  · intro allowed removes text member
    have keeps : configuration.removeAllComments = false := allowed _ member
    exact Bool.noConfusion (removes.symm.trans keeps)

theorem kept_inside (run : Run) : kept .inside run = [] := by
  apply List.filter_eq_nil_iff.mpr
  intro item _
  cases item <;> simp [Trivia.kind, Exclusion.contains, Exclusion.inside]

/-- Whitespace at the front of a run is never kept. -/
theorem kept_space_cons (exclusion : Exclusion) (run : Run) :
    kept exclusion (.singleSpace :: run) = kept exclusion run := rfl

/-! ## Recomputing each of the four places -/

theorem normalise_opening (configuration : Configuration) (run : Run) :
    normalise none none (.outside configuration) run =
      Block.run (blocks (kept (.outside configuration) run)) := by
  rw [normalise_eq_framed (by simp) (by simp)]
  cases blocks (kept (.outside configuration) run) with
  | nil => rfl
  | cons block row => cases block <;> rfl

theorem normalise_closing (configuration : Configuration) (run : Run) :
    normalise (some .singleSpace) (some .lineBreak) (.outside configuration) run =
      Block.framed (some .singleSpace) (some .lineBreak)
        (blocks (kept (.outside configuration) run)) := by
  apply normalise_eq_framed
  · simp
  · simp [Trivia.isComment]

theorem normalise_inside (run : Run) : normalise none none .inside run = [] := by
  rw [normalise_eq_framed (by simp) (by simp), kept_inside]
  rfl

theorem normalise_between (run : Run) :
    normalise (some .singleSpace) (some .singleSpace) .inside run = [.singleSpace] := by
  rw [normalise_eq_framed (by simp) (by simp), kept_inside]
  rfl

theorem opens_normalise (configuration : Configuration) (run : Run) :
    Opens configuration (normalise none none (.outside configuration) run) :=
  ⟨_, admits_iff_keptBy.mpr (keptBy_of_mem_blocks_kept _ run), normalise_opening configuration run⟩

theorem closes_normalise (configuration : Configuration) (run : Run) :
    Closes configuration
      (normalise (some .singleSpace) (some .lineBreak) (.outside configuration) run) := by
  rw [normalise_closing]
  have allowed := keptBy_of_mem_blocks_kept (.outside configuration) run
  cases read : blocks (kept (.outside configuration) run) with
  | nil => exact ⟨.blank, [], by simp [Configuration.Admits], rfl⟩
  | cons first row =>
      rw [read] at allowed
      refine ⟨first, row, admits_iff_keptBy.mpr allowed, ?_⟩
      cases first <;> simp [Block.framed]

theorem normalise_of_opens {configuration : Configuration} {run : Run}
    (opens : Opens configuration run) :
    normalise none none (.outside configuration) run = run := by
  obtain ⟨row, admits, rfl⟩ := opens
  rw [normalise_opening, blocks_kept_run (admits_iff_keptBy.mp admits)]

theorem normalise_of_closes {configuration : Configuration} {run : Run}
    (closes : Closes configuration run) :
    normalise (some .singleSpace) (some .lineBreak) (.outside configuration) run = run := by
  obtain ⟨first, row, admits, rfl⟩ := closes
  have read := blocks_kept_run (admits_iff_keptBy.mp admits)
  rw [normalise_closing]
  cases first with
  | blank => simp only [if_true, List.nil_append, read, Block.framed]
  | comment text =>
      simp only [reduceCtorEq, if_false, List.cons_append, List.nil_append, kept_space_cons, read,
        Block.framed, Option.toList_some]

end Run

namespace Token

@[simp] theorem format_text (configuration : Configuration) (first last : Bool) (token : Token) :
    (token.format configuration first last).text = token.text := rfl

@[simp] theorem format_leading (configuration : Configuration) (first last : Bool)
    (token : Token) :
    (token.format configuration first last).leading =
      token.formattedLeading configuration first := rfl

@[simp] theorem format_trailing (configuration : Configuration) (first last : Bool)
    (token : Token) :
    (token.format configuration first last).trailing =
      token.formattedTrailing configuration last := rfl

theorem format_eq_self {configuration : Configuration} {first last : Bool} {token : Token}
    (leading : token.formattedLeading configuration first = token.leading)
    (trailing : token.formattedTrailing configuration last = token.trailing) :
    token.format configuration first last = token := by
  rw [format, leading, trailing]

theorem formatArguments_concat (configuration : Configuration) (front : List Token)
    (last : Token) :
    formatArguments configuration (front ++ [last]) =
      front.map (format configuration false false) ++ [last.format configuration false true] := by
  induction front with
  | nil => rfl
  | cons argument front ih =>
      cases front with
      | nil => rfl
      | cons next front => simpa [formatArguments] using ih

theorem formattedLeading_argument (configuration : Configuration) (token : Token) :
    token.formattedLeading configuration false = [] := by
  rw [formattedLeading, if_neg Bool.false_ne_true, Run.normalise_inside]

theorem formattedTrailing_between (configuration : Configuration) (token : Token) :
    token.formattedTrailing configuration false = [.singleSpace] := by
  rw [formattedTrailing, if_neg Bool.false_ne_true, Run.normalise_between]

theorem opens_formattedLeading (configuration : Configuration) (token : Token) :
    (token.formattedLeading configuration true).Opens configuration :=
  Run.opens_normalise configuration token.leading

theorem closes_formattedTrailing (configuration : Configuration) (token : Token) :
    (token.formattedTrailing configuration true).Closes configuration :=
  Run.closes_normalise configuration token.trailing

theorem formattedLeading_of_opens {configuration : Configuration} {token : Token}
    (opens : token.leading.Opens configuration) :
    token.formattedLeading configuration true = token.leading :=
  Run.normalise_of_opens opens

theorem formattedTrailing_of_closes {configuration : Configuration} {token : Token}
    (closes : token.trailing.Closes configuration) :
    token.formattedTrailing configuration true = token.trailing :=
  Run.normalise_of_closes closes

end Token

namespace Instruction

/-- The last token, which is the command if there are no arguments. -/
def last (content : Instruction) : Token := content.arguments.getLastD content.command

/-- The form that formatting gives to an instruction. -/
structure Canonical (configuration : Configuration) (content : Instruction) : Prop where
  /-- Nothing stands before an argument. -/
  arguments_leading : ∀ argument ∈ content.arguments, argument.leading = []
  /-- One space stands behind every token but the last. -/
  between : ∀ token ∈ content.tokens.dropLast, token.trailing = [.singleSpace]
  /-- Before the command stand blocks. -/
  opens : Run.Opens configuration content.command.leading
  /-- Behind the last token stand blocks. -/
  closes : Run.Closes configuration content.last.trailing

/-- An instruction is a command alone, or a command whose arguments end in a last one. -/
@[elab_as_elim]
theorem lastCases {motive : Instruction → Prop} (alone : ∀ command, motive ⟨command, []⟩)
    (followed : ∀ command front last, motive ⟨command, front ++ [last]⟩)
    (content : Instruction) : motive content := by
  obtain ⟨command, arguments⟩ := content
  rcases List.eq_nil_or_concat arguments with rfl | ⟨front, last, rfl⟩
  · exact alone command
  · rw [List.concat_eq_append]
    exact followed command front last

section Followed

variable (configuration : Configuration) (command : Token) (front : List Token) (last : Token)

@[simp] theorem last_followed : Instruction.last ⟨command, front ++ [last]⟩ = last :=
  List.getLastD_concat

@[simp] theorem dropLast_tokens_followed :
    (tokens ⟨command, front ++ [last]⟩).dropLast = command :: front := by
  rw [tokens, ← List.cons_append, List.dropLast_concat]

theorem withTrailing_followed (run : Run) :
    withTrailing run ⟨command, front ++ [last]⟩ =
      ⟨command, front ++ [last.withTrailing run]⟩ := by
  simp only [withTrailing, List.getLast?_concat, List.dropLast_concat]

theorem format_alone :
    format configuration ⟨command, []⟩ = ⟨command.format configuration true true, []⟩ := rfl

theorem format_followed :
    format configuration ⟨command, front ++ [last]⟩ =
      ⟨command.format configuration true false,
        front.map (Token.format configuration false false) ++
          [last.format configuration false true]⟩ := by
  have several : (front ++ [last]).isEmpty = false := by cases front <;> rfl
  simp only [format, several, Token.formatArguments_concat]

end Followed

theorem tokens_eq_concat (content : Instruction) :
    content.tokens = content.tokens.dropLast ++ [content.last] := by
  cases content using lastCases with
  | alone command => rfl
  | followed command front last =>
      rw [dropLast_tokens_followed, last_followed]
      rfl

theorem last_mem_tokens (content : Instruction) : content.last ∈ content.tokens := by
  rw [tokens_eq_concat]
  simp

/-- A property of runs holds of all runs of a canonical instruction if it holds of the first, of the
last, of a single space and of nothing. -/
theorem Canonical.forall_runs {configuration : Configuration} {content : Instruction}
    (canonical : content.Canonical configuration) {property : Run → Prop} (nothing : property [])
    (space : property [.singleSpace]) (first : property content.command.leading)
    (last : property content.last.trailing) :
    ∀ token ∈ content.tokens, property token.leading ∧ property token.trailing := by
  intro token member
  constructor
  · rcases List.mem_cons.mp member with rfl | argument
    · exact first
    · rw [canonical.arguments_leading token argument]
      exact nothing
  · rw [tokens_eq_concat] at member
    rcases List.mem_append.mp member with inner | final
    · rw [canonical.between token inner]
      exact space
    · rw [List.mem_singleton.mp final]
      exact last

/-- Formatting reaches the canonical form. -/
theorem canonical_format (configuration : Configuration) (content : Instruction) :
    (content.format configuration).Canonical configuration := by
  cases content using lastCases with
  | alone command =>
      rw [format_alone]
      exact {
        arguments_leading := by simp
        between := by simp [tokens]
        opens := command.opens_formattedLeading configuration
        closes := command.closes_formattedTrailing configuration }
  | followed command front last =>
      rw [format_followed]
      refine {
        arguments_leading := ?_
        between := ?_
        opens := command.opens_formattedLeading configuration
        closes := ?_ }
      · intro argument member
        rcases List.mem_append.mp member with inner | final
        · obtain ⟨token, _, rfl⟩ := List.mem_map.mp inner
          rw [Token.format_leading, Token.formattedLeading_argument]
        · rw [List.mem_singleton.mp final, Token.format_leading,
            Token.formattedLeading_argument]
      · intro token member
        rw [dropLast_tokens_followed] at member
        rcases List.mem_cons.mp member with rfl | inner
        · rw [Token.format_trailing, Token.formattedTrailing_between]
        · obtain ⟨argument, _, rfl⟩ := List.mem_map.mp inner
          rw [Token.format_trailing, Token.formattedTrailing_between]
      · rw [last_followed, Token.format_trailing]
        exact last.closes_formattedTrailing configuration

/-- Formatting leaves the canonical form as it is. -/
theorem format_of_canonical {configuration : Configuration} {content : Instruction}
    (canonical : content.Canonical configuration) : content.format configuration = content := by
  have opened := Token.formattedLeading_of_opens canonical.opens
  have closed := Token.formattedTrailing_of_closes canonical.closes
  have noneLeads : ∀ argument ∈ content.arguments,
      argument.formattedLeading configuration false = argument.leading := by
    intro argument member
    rw [Token.formattedLeading_argument, canonical.arguments_leading argument member]
  have spaced : ∀ token ∈ content.tokens.dropLast,
      token.formattedTrailing configuration false = token.trailing := by
    intro token member
    rw [Token.formattedTrailing_between, canonical.between token member]
  cases content using lastCases with
  | alone command => rw [format_alone, Token.format_eq_self opened closed]
  | followed command front last =>
      rw [dropLast_tokens_followed, List.forall_mem_cons] at spaced
      rw [List.forall_mem_append, List.forall_mem_singleton] at noneLeads
      rw [last_followed] at closed
      have frontStays : front.map (Token.format configuration false false) = front := by
        refine (List.map_congr_left fun token member => ?_).trans (List.map_id front)
        exact Token.format_eq_self (noneLeads.1 token member) (spaced.2 token member)
      rw [format_followed, frontStays, Token.format_eq_self opened spaced.1,
        Token.format_eq_self noneLeads.2 closed]

/-- A move with stray trivia on all sides of its words. -/
def roughMove : Instruction where
  command :=
    { kind := .command
      text := "G1"
      leading := [.singleSpace, .comment " start", .singleSpace, .lineBreak]
      trailing := [.singleSpace, .singleSpace] }
  arguments :=
    [{ kind := .argument, text := "X10", trailing := [.comment " stray", .lineBreak] },
      { kind := .argument
        text := "Y20"
        leading := [.singleSpace]
        trailing := [.comment " move", .singleSpace, .comment " done"] }]

example :
    (roughMove.format .standard).command.leading = [.comment " start", .lineBreak] ∧
      (roughMove.format .standard).last.trailing =
        [.singleSpace, .comment " move", .lineBreak, .comment " done", .lineBreak] := by
  decide +kernel

theorem format_eq_self_iff (configuration : Configuration) (content : Instruction) :
    content.format configuration = content ↔ content.Canonical configuration := by
  constructor
  · intro fixed
    rw [← fixed]
    exact canonical_format configuration content
  · exact format_of_canonical

end Instruction

namespace Statement

theorem format_instruction {configuration : Configuration}
    (normalises : configuration.normaliseWhitespace = true) (previous : Option Statement)
    (content : Instruction) :
    format configuration previous (.instruction content) =
      .instruction (content.format configuration) := by
  simp only [format, normalises, if_true]

theorem format_of_not_normalise {configuration : Configuration}
    (keeps : configuration.normaliseWhitespace = false) (previous : Option Statement)
    (statement : Statement) : statement.format configuration previous = statement := by
  cases statement <;> simp [format, keeps]

/-- Formatting gives every instruction its canonical form, and changes none that has it. -/
theorem format_instruction_canonical {configuration : Configuration}
    (normalises : configuration.normaliseWhitespace = true) (previous : Option Statement)
    (content : Instruction) :
    ∃ formatted : Instruction,
      format configuration previous (.instruction content) = .instruction formatted ∧
      formatted.Canonical configuration ∧
      (format configuration previous (.instruction content) = .instruction content ↔
        content.Canonical configuration) := by
  refine ⟨content.format configuration, format_instruction normalises previous content,
    content.canonical_format configuration, ?_⟩
  rw [format_instruction normalises, instruction.injEq]
  exact content.format_eq_self_iff configuration

theorem format_roughMove_canonical :
    Configuration.standard.normaliseWhitespace = true ∧
      ∃ formatted : Instruction,
        format .standard none (.instruction .roughMove) = .instruction formatted ∧
        formatted.Canonical .standard ∧
        (format .standard none (.instruction .roughMove) = .instruction .roughMove ↔
          Instruction.roughMove.Canonical .standard) :=
  ⟨rfl, format_instruction_canonical rfl none .roughMove⟩

end Statement
end GCode
