import GCode.Proofs.Words
import GCode.Rendering

/-!
# The text of canonical instructions

A canonical instruction is written as the blocks before its command, its words with single spaces
between them, and the blocks behind its last word.  Formatting keeps the words, brings in no
comment, and leaves no whitespace that is too wide to be written.
-/

namespace GCode
namespace Run

/-- No comment of a run holds a line break. -/
def OnOneLine (run : Run) : Prop := ∀ text, .comment text ∈ run → '\n' ∉ text.toList

theorem characters_cons (item : Trivia) (run : Run) :
    characters (item :: run) = item.characters ++ characters run := rfl

theorem comment_mem_of_mem_blocks {run : Run} {text : String}
    (member : .comment text ∈ blocks run) : .comment text ∈ run := by
  fun_induction blocks run with
  | case1 => simp at member
  | case2 width rest ih => exact List.mem_cons_of_mem _ (ih member)
  | case3 rest ih => exact List.mem_cons_of_mem _ (ih (by simpa using member))
  | case4 other rest ih =>
      rcases List.mem_cons.mp member with here | later
      · rw [Block.comment.inj here]
        exact List.mem_cons_self
      · exact List.mem_cons_of_mem _ (List.mem_cons_of_mem _ (ih later))
  | case5 other rest unbroken ih =>
      rcases List.mem_cons.mp member with here | later
      · rw [Block.comment.inj here]
        exact List.mem_cons_self
      · exact List.mem_cons_of_mem _ (ih later)

theorem comment_mem_run_iff {row : List Block} {text : String} :
    .comment text ∈ Block.run row ↔ .comment text ∈ row := by
  induction row with
  | nil => simp
  | cons block row ih => cases block <;> simp [ih]

/-- Recomputing a run brings in no comment. -/
theorem comment_mem_of_mem_normalise {opening closing : Option Trivia}
    (opens : ∀ item ∈ opening, item.isWhitespace = true)
    (closes : ∀ item ∈ closing, item.isComment = false) {exclusion : Exclusion} {run : Run}
    {text : String} (member : .comment text ∈ normalise opening closing exclusion run) :
    .comment text ∈ run := by
  have read : .comment text ∈ Block.run (blocks (kept exclusion run)) := by
    rw [normalise_eq_framed opens closes] at member
    cases row : blocks (kept exclusion run) with
    | nil =>
        rw [row, Block.framed, Option.mem_toList] at member
        simpa [Trivia.isComment] using closes _ member
    | cons block others =>
        rw [row] at member
        cases block with
        | blank => exact member
        | comment other =>
            rcases List.mem_append.mp member with front | back
            · simpa [Trivia.isWhitespace] using opens _ (Option.mem_toList.mp front)
            · exact back
  exact (List.mem_filter.mp (comment_mem_of_mem_blocks (comment_mem_run_iff.mp read))).1

theorem onOneLine_normalise {opening closing : Option Trivia}
    (opens : ∀ item ∈ opening, item.isWhitespace = true)
    (closes : ∀ item ∈ closing, item.isComment = false) (exclusion : Exclusion) {run : Run}
    (inline : run.OnOneLine) : OnOneLine (normalise opening closing exclusion run) :=
  fun text member => inline text (comment_mem_of_mem_normalise opens closes member)

theorem onOneLine_formattedLeading (configuration : Configuration) (first : Bool) {token : Token}
    (inline : token.leading.OnOneLine) :
    (token.formattedLeading configuration first).OnOneLine := by
  cases first <;> exact onOneLine_normalise (by simp) (by simp) _ inline

theorem onOneLine_formattedTrailing (configuration : Configuration) (last : Bool) {token : Token}
    (inline : token.trailing.OnOneLine) :
    (token.formattedTrailing configuration last).OnOneLine := by
  cases last with
  | false => exact onOneLine_normalise (by simp) (by simp) _ inline
  | true => exact onOneLine_normalise (by simp) (by simp [Trivia.isComment]) _ inline

/-- All whitespace of a run is one column wide. -/
def SingleSpaced (run : Run) : Prop := ∀ width, .whitespace width ∈ run → width.columns = 1

theorem singleSpaced_of_bare {run : Run} (bare : run.Bare) : run.SingleSpaced := by
  intro width member
  exact Bool.noConfusion (bare _ member)

theorem SingleSpaced.space_cons {run : Run} (single : run.SingleSpaced) :
    SingleSpaced (.singleSpace :: run) := by
  intro width member
  rcases List.mem_cons.mp member with space | later
  · rw [Trivia.whitespace.inj space]
  · exact single width later

theorem SingleSpaced.fits {run : Run} (single : run.SingleSpaced) : run.fits = true := by
  refine List.all_eq_true.mpr fun item member => ?_
  cases item with
  | whitespace width => simp [Trivia.fits, single width member, widestColumns]
  | lineBreak => rfl
  | comment text => rfl

theorem Opens.singleSpaced {configuration : Configuration} {run : Run}
    (opens : Opens configuration run) : run.SingleSpaced := by
  obtain ⟨row, _, rfl⟩ := opens
  exact singleSpaced_of_bare (bare_run row)

theorem Closes.singleSpaced {configuration : Configuration} {run : Run}
    (closes : Closes configuration run) : run.SingleSpaced := by
  obtain ⟨first, row, _, rfl⟩ := closes
  have single := singleSpaced_of_bare (bare_run (first :: row))
  split
  · exact single
  · exact single.space_cons

end Run

namespace Token

theorem characters_of_between {token : Token} (between : token.trailing = [.singleSpace]) :
    token.characters = Run.characters token.leading ++ (token.text.toList ++ [' ']) := by
  rw [characters, between, List.append_assoc]
  rfl

/-- Tokens that stand apart by one space are written as their texts with spaces between. -/
theorem flatMap_characters (first : Token) (others : List Token)
    (bare : ∀ token ∈ others, token.leading = [])
    (between : ∀ token ∈ (first :: others).dropLast, token.trailing = [.singleSpace]) :
    (first :: others).flatMap characters =
      Run.characters first.leading ++
        [' '].intercalate ((first :: others).map fun token => token.text.toList) ++
          Run.characters (others.getLastD first).trailing := by
  induction others generalizing first with
  | nil => simp [characters, List.intercalate_singleton]
  | cons next others ih =>
      rw [List.dropLast_cons_cons, List.forall_mem_cons] at between
      rw [List.forall_mem_cons] at bare
      rw [List.flatMap_cons, ih next bare.2 between.2, characters_of_between between.1, bare.1]
      simp [Run.characters, List.intercalate_cons_cons, List.getLast?_cons]

end Token

namespace Instruction

/-- The words of an instruction with single spaces between them. -/
def line (content : Instruction) : List Char :=
  [' '].intercalate (content.tokens.map fun token => token.text.toList)

theorem characters_of_canonical {configuration : Configuration} {content : Instruction}
    (canonical : content.Canonical configuration) :
    content.tokens.flatMap Token.characters =
      Run.characters content.command.leading ++ content.line ++
        Run.characters content.last.trailing :=
  Token.flatMap_characters content.command content.arguments canonical.arguments_leading
    canonical.between

theorem exists_of_mem_tokens_format {configuration : Configuration} {content : Instruction}
    {token : Token} (member : token ∈ (content.format configuration).tokens) :
    ∃ original ∈ content.tokens, ∃ first last,
      token = original.format configuration first last := by
  cases content using lastCases with
  | alone command =>
      rw [format_alone] at member
      exact ⟨command, List.mem_cons_self, true, true, List.mem_singleton.mp member⟩
  | followed command front final =>
      rw [format_followed] at member
      simp only [tokens, List.mem_cons, List.mem_append, List.mem_map, List.not_mem_nil,
        or_false] at member
      rcases member with rfl | ⟨argument, among, rfl⟩ | rfl
      · exact ⟨command, by simp [tokens], true, false, rfl⟩
      · exact ⟨argument, by simp [tokens, among], false, false, rfl⟩
      · exact ⟨final, by simp [tokens], false, true, rfl⟩

theorem tokens_format_text (configuration : Configuration) (content : Instruction) :
    (content.format configuration).tokens.map Token.text = content.tokens.map Token.text := by
  have texts := congrArg (List.map Prod.snd) (content.words_format configuration)
  rw [words, words, List.map_map, List.map_map] at texts
  exact texts

theorem line_format (configuration : Configuration) (content : Instruction) :
    (content.format configuration).line = content.line := by
  have texts := congrArg (List.map String.toList) (content.tokens_format_text configuration)
  rw [List.map_map, List.map_map] at texts
  exact congrArg [' '].intercalate texts

theorem Canonical.singleSpaced {configuration : Configuration} {content : Instruction}
    (canonical : content.Canonical configuration) :
    ∀ token ∈ content.tokens, token.leading.SingleSpaced ∧ token.trailing.SingleSpaced := by
  have nothing : Run.SingleSpaced [] := by simp [Run.SingleSpaced]
  exact canonical.forall_runs nothing nothing.space_cons canonical.opens.singleSpaced
    canonical.closes.singleSpaced

/-- A canonical instruction can always be written. -/
theorem Canonical.fits {configuration : Configuration} {content : Instruction}
    (canonical : content.Canonical configuration) :
    (Statement.instruction content).fits = true := by
  refine List.all_eq_true.mpr fun token member => ?_
  obtain ⟨leading, trailing⟩ := canonical.singleSpaced token member
  rw [Token.fits, leading.fits, trailing.fits, Bool.and_self]

end Instruction
end GCode
