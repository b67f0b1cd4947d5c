import GCode.Proofs.Canonical
import GCode.Proofs.Passes
import Mathlib.Data.List.Forall2

/-!
# The words of an instruction

The words of an instruction are the kinds and texts of its tokens.  Formatting keeps them, and with
them all of a program but its trivia: `Program.format_retouches`.  A canonical instruction can be
laid out from its words and its runs at the two ends, so these determine it:
`Instruction.Canonical.eq_iff`.
-/

namespace GCode

namespace Token

/-- A token without its trivia. -/
def word (token : Token) : TokenKind × String := (token.kind, token.text)

/-- Words as tokens with single spaces between them, and with given runs at the two ends. -/
def layOut (opening closing : Run) : List (TokenKind × String) → List Token
  | [] => []
  | [(kind, text)] => [⟨kind, text, opening, closing⟩]
  | (kind, text) :: next :: rest =>
      ⟨kind, text, opening, [.singleSpace]⟩ :: layOut [] closing (next :: rest)

theorem eq_layOut (first : Token) (others : List Token)
    (bare : ∀ token ∈ others, token.leading = [])
    (between : ∀ token ∈ (first :: others).dropLast, token.trailing = [.singleSpace]) :
    first :: others =
      layOut first.leading (others.getLastD first).trailing ((first :: others).map word) := by
  induction others generalizing first with
  | nil => rfl
  | cons next others ih =>
      rw [List.dropLast_cons_cons, List.forall_mem_cons] at between
      rw [List.forall_mem_cons] at bare
      have later := ih next bare.2 between.2
      rw [bare.1] at later
      rw [List.getLastD_cons, List.map_cons, List.map_cons, word, layOut, ← between.1]
      exact congrArg (first :: ·) later

end Token

namespace Instruction

/-- The words of an instruction. -/
def words (content : Instruction) : List (TokenKind × String) := content.tokens.map Token.word

theorem words_format (configuration : Configuration) (content : Instruction) :
    (content.format configuration).words = content.words := by
  cases content using lastCases with
  | alone command => rfl
  | followed command front last =>
      rw [format_followed, words, words, tokens, tokens, List.map_cons, List.map_cons,
        List.map_append, List.map_append, List.map_map]
      rfl

theorem tokens_injective {first second : Instruction} (same : first.tokens = second.tokens) :
    first = second := by
  obtain ⟨command, arguments⟩ := first
  obtain ⟨rfl, rfl⟩ := List.cons_eq_cons.mp same
  rfl

theorem Canonical.tokens_eq_layOut {configuration : Configuration} {content : Instruction}
    (canonical : content.Canonical configuration) :
    content.tokens = Token.layOut content.command.leading content.last.trailing content.words :=
  Token.eq_layOut content.command content.arguments canonical.arguments_leading canonical.between

/-- Canonical instructions are equal if they have the same words and the same runs at the two
ends. -/
theorem Canonical.eq_iff {configuration other : Configuration} {first second : Instruction}
    (canonical : first.Canonical configuration) (canonical' : second.Canonical other) :
    first = second ↔
      first.words = second.words ∧ first.command.leading = second.command.leading ∧
        first.last.trailing = second.last.trailing := by
  constructor
  · rintro rfl
    exact ⟨rfl, rfl, rfl⟩
  · rintro ⟨words, leading, trailing⟩
    apply tokens_injective
    rw [canonical.tokens_eq_layOut, canonical'.tokens_eq_layOut, words, leading, trailing]

theorem WellKinded.map_kind {content : Instruction} (wellKinded : content.WellKinded) :
    content.tokens.map Token.kind =
      .command :: List.replicate content.arguments.length .argument := by
  rw [tokens, List.map_cons, wellKinded.1, List.map_eq_replicate_iff.mpr wellKinded.2]

theorem words_eq_zip (content : Instruction) :
    content.words = (content.tokens.map Token.kind).zip (content.tokens.map Token.text) :=
  List.zip_map'.symm

/-- The texts of well-kinded instructions determine the kinds of their words. -/
theorem WellKinded.words_eq {first second : Instruction} (wellKinded : first.WellKinded)
    (wellKinded' : second.WellKinded)
    (texts : first.tokens.map Token.text = second.tokens.map Token.text) :
    first.words = second.words := by
  have lengths : first.arguments.length = second.arguments.length := by
    simpa [tokens] using congrArg List.length texts
  rw [words_eq_zip, words_eq_zip, texts, wellKinded.map_kind, wellKinded'.map_kind, lengths]

end Instruction

/-- Two statements differ in their trivia at most. -/
inductive Statement.Retouches : Statement → Statement → Prop where
  /-- The command and the arguments keep their number, their order, their kinds and their texts. -/
  | instruction {before after : Instruction} (command : after.command.word = before.command.word)
      (arguments : after.arguments.map Token.word = before.arguments.map Token.word) :
      Retouches (.instruction before) (.instruction after)
  /-- The end of a file is nothing but trivia. -/
  | endOfFile (before after : Run) : Retouches (.endOfFile before) (.endOfFile after)

theorem Statement.retouches_format (configuration : Configuration) (previous : Option Statement)
    (statement : Statement) : statement.Retouches (statement.format configuration previous) := by
  cases statement with
  | instruction content =>
      obtain ⟨command, arguments⟩ := List.cons_eq_cons.mp (content.words_format configuration)
      rw [format]
      split
      · exact .instruction command arguments
      · exact .instruction rfl rfl
  | endOfFile trivia =>
      rw [format]
      split <;> exact .endOfFile _ _

theorem Program.format_of_not_normalise {configuration : Configuration}
    (keeps : configuration.normaliseWhitespace = false) (program : Program) :
    program.format configuration = program := by
  have unchanged : ∀ statement ∈ program, statement.format configuration none = statement :=
    fun statement _ => Statement.format_of_not_normalise keeps none statement
  rw [format_eq_map, List.map_congr_left unchanged, List.map_id']

/-- Formatting gives back as many statements as it gets, and each differs from the one in its place
in trivia at most.  Where trivia is not recomputed, nothing differs. -/
theorem Program.format_retouches (configuration : Configuration) (program : Program) :
    (program.format configuration).length = program.length ∧
      List.Forall₂ Statement.Retouches program (program.format configuration) ∧
      ∀ removes, program.format ⟨false, removes⟩ = program := by
  refine ⟨?_, ?_, fun removes => format_of_not_normalise rfl program⟩
  · rw [format_eq_map, List.length_map]
  · rw [format_eq_map, List.forall₂_map_right_iff, List.forall₂_same]
    exact fun statement _ => statement.retouches_format configuration none

end GCode
